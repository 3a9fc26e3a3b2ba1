/-
A view that shows some of its cells: at each index the cell on screen, or none.

`Each P` says `P` of every cell on screen. There is one lemma for what each
change of the screen needs to keep it: a message to a cell (which does
nothing when the cell is off screen), a cell coming on screen, one going off.
-/
import Mathlib.Logic.Function.Basic
import Mathlib.Tactic.Common

namespace Screen

variable {ι Cell : Type}

/-- The cells on screen, by their indexes. -/
abbrev Cells (ι Cell : Type) := ι → Option Cell

def nothing : Cells ι Cell := fun _ => none

/-- `P` of every cell on screen and its index. -/
def Each (P : ι → Cell → Prop) (cells : Cells ι Cell) : Prop := ∀ i cell, cells i = some cell → P i cell

variable {P Q : ι → Cell → Prop} {cells : Cells ι Cell} {i j : ι} {cell : Cell} {f g : Cell → Cell}

theorem each_nothing : Each P nothing := nofun

theorem Each.imp (h : Each P cells) (hPQ : ∀ i cell, P i cell → Q i cell) : Each Q cells :=
  fun i cell hc => hPQ i cell (h i cell hc)

section Changes

variable [DecidableEq ι]

/-- The cell at an index is changed, if it is on screen. -/
def tell (cells : Cells ι Cell) (i : ι) (f : Cell → Cell) : Cells ι Cell :=
  Function.update cells i ((cells i).map f)

/-- A cell comes on screen. -/
def put (cells : Cells ι Cell) (i : ι) (cell : Cell) : Cells ι Cell := Function.update cells i (some cell)

/-- A cell goes off screen. -/
def remove (cells : Cells ι Cell) (i : ι) : Cells ι Cell := Function.update cells i none

/-- Cells come on screen one after another. -/
def putAll (visible : List (ι × Cell)) (cells : Cells ι Cell) : Cells ι Cell :=
  visible.foldl (fun cells p => put cells p.1 p.2) cells

@[simp] theorem tell_self (cells : Cells ι Cell) (i : ι) (f : Cell → Cell) :
    tell cells i f i = (cells i).map f := Function.update_self _ _ _

theorem tell_of_ne (h : j ≠ i) (cells : Cells ι Cell) (f : Cell → Cell) : tell cells i f j = cells j :=
  Function.update_of_ne h _ _

@[simp] theorem put_self (cells : Cells ι Cell) (i : ι) (cell : Cell) : put cells i cell i = some cell :=
  Function.update_self _ _ _

theorem put_of_ne (h : j ≠ i) (cells : Cells ι Cell) (cell : Cell) : put cells i cell j = cells j :=
  Function.update_of_ne h _ _

theorem tell_id (cells : Cells ι Cell) (i : ι) : tell cells i id = cells := by
  rw [tell, Option.map_id, id, Function.update_eq_self]

theorem tell_tell (cells : Cells ι Cell) (i : ι) (f g : Cell → Cell) :
    tell (tell cells i f) i g = tell cells i fun cell => g (f cell) := by
  unfold tell
  rw [Function.update_idem, Function.update_self, Option.map_map]
  rfl

theorem tell_comm (h : i ≠ j) (cells : Cells ι Cell) (f g : Cell → Cell) :
    tell (tell cells i f) j g = tell (tell cells j g) i f := by
  unfold tell
  rw [Function.update_of_ne h.symm, Function.update_of_ne h, Function.update_comm h]

theorem tell_pair (h : i ≠ j) (cells : Cells ι Cell) (f g f' g' : Cell → Cell) :
    tell (tell (tell (tell cells i f) j g) i f') j g' =
      tell (tell cells i fun cell => f' (f cell)) j fun cell => g' (g cell) := by
  rw [tell_comm h.symm, tell_tell, tell_tell]

/-- Of two rounds of messages to two cells the second is all there is, when it undoes the first. -/
theorem tell_pair_absorbs (h : i ≠ j) (cells : Cells ι Cell) {f g f' g' : Cell → Cell}
    (hf : ∀ cell, f' (f cell) = f' cell) (hg : ∀ cell, g' (g cell) = g' cell) :
    tell (tell (tell (tell cells i f) j g) i f') j g' = tell (tell cells i f') j g' := by
  rw [tell_pair h, funext hf, funext hg]

/-- A cell that comes on screen takes the place of the one that was told something. -/
theorem put_tell (cells : Cells ι Cell) (i : ι) (f : Cell → Cell) (cell : Cell) :
    put (tell cells i f) i cell = put cells i cell := Function.update_idem _ _ _

theorem Each.tell (hi : ∀ cell, cells i = some cell → P i (f cell))
    (hother : ∀ j cell, j ≠ i → cells j = some cell → P j cell) : Each P (Screen.tell cells i f) := by
  intro j cell hc
  by_cases hj : j = i
  · subst hj
    rw [tell_self] at hc
    obtain ⟨old, hold, rfl⟩ := Option.map_eq_some_iff.mp hc
    exact hi old hold
  · rw [tell_of_ne hj] at hc
    exact hother j cell hj hc

theorem Each.put (h : Each P cells) (hi : P i cell) : Each P (Screen.put cells i cell) := by
  intro j c hc
  by_cases hj : j = i
  · subst hj
    rw [put_self] at hc
    exact Option.some.inj hc ▸ hi
  · rw [put_of_ne hj] at hc
    exact h j c hc

theorem Each.remove (h : Each P cells) (i : ι) : Each P (Screen.remove cells i) := by
  intro j c hc
  by_cases hj : j = i
  · subst hj
    rw [Screen.remove, Function.update_self] at hc
    cases hc
  · rw [Screen.remove, Function.update_of_ne hj] at hc
    exact h j c hc

theorem Each.putAll {visible : List (ι × Cell)} (h : Each P cells) (hv : ∀ p ∈ visible, P p.1 p.2) :
    Each P (Screen.putAll visible cells) := by
  induction visible generalizing cells with
  | nil => exact h
  | cons p visible ih => exact ih (h.put (hv p (by simp))) fun q hq => hv q (List.mem_cons_of_mem p hq)

/-- At the index of a cell that came on screen stands the last one that did. -/
theorem putAll_mem {visible : List (ι × Cell)} {p : ι × Cell} (hp : p ∈ visible) :
    ∃ q ∈ visible, q.1 = p.1 ∧ putAll visible cells p.1 = some q.2 := by
  induction visible generalizing cells p with
  | nil => simp at hp
  | cons r visible ih =>
    by_cases hlater : ∃ q ∈ visible, q.1 = p.1
    · obtain ⟨q, hq, hqp⟩ := hlater
      obtain ⟨q', hq', he, hat⟩ : ∃ q' ∈ visible, q'.1 = q.1 ∧
        putAll visible (put cells r.1 r.2) q.1 = some q'.2 := ih hq
      rw [hqp] at he hat
      exact ⟨q', List.mem_cons_of_mem r hq', he, hat⟩
    · have hr : p = r := (List.mem_cons.mp hp).resolve_right fun h => hlater ⟨p, h, rfl⟩
      subst hr
      refine ⟨p, List.mem_cons_self, rfl, ?_⟩
      have hkeep : ∀ (rest : List (ι × Cell)) (cells : Cells ι Cell), (∀ q ∈ rest, q.1 ≠ p.1) →
          putAll rest cells p.1 = cells p.1 := by
        intro rest
        induction rest with
        | nil => exact fun cells _ => rfl
        | cons q rest ih =>
          intro cells hne
          rw [putAll, List.foldl_cons]
          refine (ih _ fun q' hq' => hne q' (List.mem_cons_of_mem q hq')).trans ?_
          exact put_of_ne (hne q (by simp)).symm _ _
      refine (hkeep visible _ fun q hq he => hlater ⟨q, hq, he⟩).trans ?_
      exact put_self _ _ _

end Changes

end Screen
