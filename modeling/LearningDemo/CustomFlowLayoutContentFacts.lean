/-
Which items the content size of the layout has room for.

The bottom edges of the first pass rise from item to item (`itemBottom_mono`),
so the last item decides; and they rise with the square of its round, while
the content size stays at two screens.
-/
import LearningDemo.CustomFlowLayoutShortestFacts

namespace LearningDemo.CustomFlowLayout

open Imperative

variable {n : Nat}

/-- The bottom edge of an item of the first pass: how far down its column has
come with it. -/
def itemBottom (i : Nat) : ℚ := columnHeight (i % 3) (i / 3 + 1)

theorem itemBottom_round {c r : Nat} (hc : c < 3) : itemBottom (c + 3 * r) = columnHeight c (r + 1) := by
  unfold itemBottom
  congr 1 <;> omega

theorem columnHeight_bottom (c r : Nat) : columnHeight c (r + 1) = (r + 1) * (60 + 10 * c + 15 * r) := by
  unfold columnHeight
  push_cast
  ring

theorem itemBottom_le_succ (i : Nat) : itemBottom i ≤ itemBottom (i + 1) := by
  obtain ⟨c, r, rfl⟩ := exists_round i
  rw [itemBottom_round c.isLt]
  by_cases hlast : c.val = 2
  · have hnext : c.val + 3 * r + 1 = 0 + 3 * (r + 1) := by omega
    rw [hnext, itemBottom_round (by omega)]
    exact (columnHeight_lt (by omega) 0 (r + 1)).le
  · have hnext : c.val + 3 * r + 1 = (c.val + 1) + 3 * r := by omega
    rw [hnext, itemBottom_round (by omega)]
    exact columnHeight_le (Nat.le_succ c) (r + 1)

theorem itemBottom_mono : Monotone itemBottom := monotone_nat_of_le_succ itemBottom_le_succ

theorem itemBottoms_le_iff (h : ℚ) : (∀ i < n, itemBottom i ≤ h) ↔ n = 0 ∨ itemBottom (n - 1) ≤ h := by
  refine ⟨fun hall => ?_, fun hlast i hi => ?_⟩
  · rcases Nat.eq_zero_or_pos n with hn | hn
    · exact .inl hn
    · exact .inr (hall (n - 1) (by omega))
  · have hle := hlast.resolve_left (by omega)
    exact (itemBottom_mono (show i ≤ n - 1 by omega)).trans hle

theorem frameAt_bottom (nn_width : ℚ) (i : Nat) :
    (frameAt nn_width (before (fun _ => 0) i) i).getMaxY = itemBottom i := by
  obtain ⟨c, r, rfl⟩ := exists_round i
  have hgrown : Grown (roundHeights (c + 3 * r)) := before_fresh (c + 3 * r) ▸ Grown.fresh.before _
  rw [frameAt_getMaxY, before_fresh, choose_round, topBelow_grown (hgrown c), roundHeights_self,
    itemBottom_round c.isLt, columnHeight_succ]

theorem firstPass_bottoms (nn_width : ℚ) (n : Nat) : ∃ layout, prepareLayout nn_width n fresh = .ok layout ∧
    ∀ h, (∀ attrs ∈ layout.layoutArrs, attrs.frame.getMaxY ≤ h) ↔ ∀ i < n, itemBottom i ≤ h := by
  obtain ⟨layout, hpass, hshows⟩ := prepareLayout_ok nn_width n fresh
  refine ⟨layout, hpass, fun h => ?_⟩
  rw [hshows.arrs, heights_fresh, List.forall_mem_map]
  simp only [List.mem_range, frameAt_bottom]

/-- **Two screens are enough for so many items only.** After the first pass
every frame ends within the content exactly when there is no item, or the last
one, the `r`-th of column `c`, does. -/
theorem firstPass_in_content_iff (nn_width nn_height : ℚ) (n : Nat) :
    ∃ layout, prepareLayout nn_width n fresh = .ok layout ∧
      ((∀ attrs ∈ layout.layoutArrs, attrs.frame.getMaxY ≤ (collectionViewContentSize nn_height).height) ↔
        ∀ c r : Nat, c < 3 → n = c + 3 * r + 1 → (r + 1) * (60 + 10 * c + 15 * r) ≤ 2 * nn_height) := by
  obtain ⟨layout, hpass, hbottoms⟩ := firstPass_bottoms nn_width n
  have hsize : (collectionViewContentSize nn_height).height = 2 * nn_height := mul_comm nn_height 2
  refine ⟨layout, hpass, ?_⟩
  rw [hbottoms, itemBottoms_le_iff, hsize]
  refine ⟨?_, fun h => ?_⟩
  · rintro hlast c r hc rfl
    have hle := hlast.resolve_left (by omega)
    rwa [Nat.add_sub_cancel, itemBottom_round hc, columnHeight_bottom] at hle
  · rcases Nat.eq_zero_or_pos n with hn | hn
    · exact .inl hn
    · obtain ⟨c, r, hround⟩ := exists_round (n - 1)
      rw [hround, itemBottom_round c.isLt, columnHeight_bottom]
      exact .inr (h c r c.isLt (by omega))

/-- Twenty-three items on a screen of 667: the last ends at 1400, the content at 1334. -/
theorem item_out_of_content : ¬ ∀ (nn_width nn_height : ℚ) (n : Nat), 0 < nn_height →
    ∃ layout, prepareLayout nn_width n fresh = .ok layout ∧
      ∀ attrs ∈ layout.layoutArrs, attrs.frame.getMaxY ≤ (collectionViewContentSize nn_height).height := by
  intro h
  obtain ⟨layout, hpass, hin⟩ := h 375 667 23 (by norm_num)
  obtain ⟨layout', hpass', hbottoms⟩ := firstPass_bottoms 375 23
  obtain rfl := Except.ok.inj (hpass.symm.trans hpass')
  have hlast := (hbottoms _).mp hin 22 (by norm_num)
  norm_num [itemBottom, columnHeight, collectionViewContentSize] at hlast

end LearningDemo.CustomFlowLayout
