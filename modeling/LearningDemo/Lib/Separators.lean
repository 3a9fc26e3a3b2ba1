/-
Separators in a list: no two of them in a row, as `collapse` leaves it. An
escape that gives each element back or spells it out without separators
keeps that.
-/
import Mathlib.Data.List.Chain

namespace Separators

variable {α : Type} {x : α} {l l' : List α}

/-- No two separators `x` in a row. -/
def Single (x : α) (l : List α) : Prop := l.IsChain fun a b => a = x → b ≠ x

theorem Single.left_of_append (h : Single x (l ++ l')) : Single x l := List.IsChain.left_of_append h

/-- Elements given back as they are, or spelled out without a separator. -/
def Escapes (x : α) (escape : α → List α) : Prop := ∀ a, escape a = [a] ∨ escape a ≠ [] ∧ x ∉ escape a

/-- A separator at the front of what was escaped was one before. -/
theorem Escapes.head {escape : α → List α} (h : Escapes x escape) (hx : (l.flatMap escape).head? = some x) :
    l.head? = some x := by
  cases l with
  | nil => exact hx
  | cons a l =>
    rw [List.flatMap_cons] at hx
    rcases h a with hsame | ⟨hne, hnone⟩
    · rwa [hsame, List.singleton_append] at hx
    · rw [List.head?_append_of_ne_nil _ hne] at hx
      exact absurd (List.mem_of_head? hx) hnone

/-- Escaping puts no separators side by side. -/
theorem Single.flatMap {escape : α → List α} (h : Single x l) (hesc : Escapes x escape) :
    Single x (l.flatMap escape) := by
  induction l with
  | nil => exact List.isChain_nil
  | cons a l ih =>
    obtain ⟨hhead, hl⟩ := List.isChain_cons.mp h
    rw [List.flatMap_cons]
    rcases hesc a with hsame | ⟨_, hnone⟩
    · rw [hsame, List.singleton_append]
      refine List.isChain_cons.mpr ⟨fun b hb ha hbx => ?_, ih hl⟩
      exact hhead x (hesc.head (hbx ▸ hb)) ha rfl
    · refine List.isChain_append.mpr ⟨?_, ih hl, fun b hb _ _ hbx => ?_⟩
      · refine (List.pairwise_of_forall_mem_list fun b hb c _ hbx => ?_).isChain
        exact absurd (hbx ▸ hb) hnone
      · exact absurd (hbx ▸ List.mem_of_getLast? hb) hnone

variable [DecidableEq α]

/-- One separator for every run of them. -/
def collapse (x : α) : List α → List α
  | [] => []
  | a :: l => if a = x ∧ l.head? = some x then collapse x l else a :: collapse x l

theorem collapse_head? (l : List α) : (collapse x l).head? = l.head? := by
  induction l with
  | nil => rfl
  | cons a l ih =>
    unfold collapse
    split
    · rename_i hrun
      rw [ih, hrun.2, hrun.1]
      rfl
    · rfl

theorem single_collapse (x : α) (l : List α) : Single x (collapse x l) := by
  induction l with
  | nil => exact List.isChain_nil
  | cons a l ih =>
    unfold collapse
    split
    · exact ih
    · rename_i hrun
      refine List.isChain_cons.mpr ⟨fun b hb ha hbx => hrun ⟨ha, ?_⟩, ih⟩
      rw [← collapse_head?]
      exact hbx ▸ hb

end Separators
