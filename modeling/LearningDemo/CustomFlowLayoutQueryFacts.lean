/-
Asking for an item's attributes after a pass.

One method both builds the layout and answers queries, so a query places the
item once more, below what its column holds by then. The column the item was
placed in has become longer since (`before_le_foldl`), so no query in a view
with a width finds the frame stored (`query_moves`). In any view four items
cannot all start at one height (`queries_never_pure`): there are three
columns, and an item leaves its own longer than that.
-/
import LearningDemo.CustomFlowLayoutShortestFacts

namespace LearningDemo.CustomFlowLayout

open Imperative

variable {nn_width : ℚ} {layout : CustomFlowLayout} {c : Heights}

/-- A query, of which only the layout is kept. -/
def query (nn_width : ℚ) (layout : CustomFlowLayout) (item : Nat) : C CustomFlowLayout := do
  pure (← layoutAttributesForItemAtIndexPath nn_width layout item).2

/-- The layout after queries for these items, one after another. -/
def queryAll (nn_width : ℚ) (items : List Nat) (layout : CustomFlowLayout) : C CustomFlowLayout :=
  items.foldlM (query nn_width) layout

/-- Whatever was asked before, a query for an item of the pass returns the
frame stored for it. -/
def QueriesPure (nn_width : ℚ) (n : Nat) (layout : CustomFlowLayout) : Prop :=
  ∀ items : List Nat, (∀ j ∈ items, j < n) → ∀ i < n, ∃ asked attrs after stored,
    queryAll nn_width items layout = .ok asked ∧
    layoutAttributesForItemAtIndexPath nn_width asked i = .ok (attrs, after) ∧
    (∀ rect, (layout.layoutAttributesForElementsInRect rect)[i]? = some stored) ∧
    attrs.frame = stored.frame

/-! ## Queries go on placing -/

theorem queryAll_ok (nn_width : ℚ) : ∀ (items : List Nat) {c : Heights} {layout : CustomFlowLayout},
    3 ≤ layout.columnArray.length → heights layout.columnArray = c →
    ∃ asked, queryAll nn_width items layout = .ok asked ∧ 3 ≤ asked.columnArray.length ∧
      heights asked.columnArray = items.foldl grow c := by
  intro items
  induction items with
  | nil =>
    intro c layout hmade hc
    exact ⟨layout, rfl, hmade, hc⟩
  | cons item items ih =>
    intro c layout hmade hc
    obtain ⟨columnArray, hstep, hmade', hc'⟩ := layoutAttributes_ok nn_width item hmade hc
    have hmade'' : 3 ≤ ({ layout with columnArray } : CustomFlowLayout).columnArray.length := hmade'
    obtain ⟨asked, hrest, hasked⟩ := ih hmade'' hc'
    refine ⟨asked, ?_, hasked⟩
    have hquery : query nn_width layout item = .ok { layout with columnArray } := by
      rw [query, hstep]
      rfl
    rw [queryAll, List.foldlM_cons, hquery]
    exact hrest

theorem query_ok (nn_width : ℚ) (n : Nat) (layout : CustomFlowLayout) : ∃ layout',
    prepareLayout nn_width n layout = .ok layout' ∧
    (∀ i < n, ∀ rect, (layout'.layoutAttributesForElementsInRect rect)[i]? =
      some ⟨i, frameAt nn_width (before (heights layout.columnArray) i) i⟩) ∧
    ∀ (items : List Nat) (i : Nat), ∃ asked after, queryAll nn_width items layout' = .ok asked ∧
      layoutAttributesForItemAtIndexPath nn_width asked i =
        .ok (⟨i, frameAt nn_width (items.foldl grow (before (heights layout.columnArray) n)) i⟩, after) := by
  obtain ⟨layout', hpass, hshows⟩ := prepareLayout_ok nn_width n layout
  refine ⟨layout', hpass, fun i hi rect => ?_, fun items i => ?_⟩
  · rw [layoutAttributesForElementsInRect, hshows.arrs, List.getElem?_map, List.getElem?_range hi,
      Option.map_some]
  · obtain ⟨asked, hasked, hmade, hheights⟩ := queryAll_ok nn_width items hshows.made hshows.heights
    obtain ⟨columnArray, hstep, -⟩ := layoutAttributes_ok nn_width i hmade hheights
    exact ⟨asked, _, hasked, hstep⟩

theorem before_le_foldl (items : List Nat) (c : Heights) (d : Fin 3) : c d ≤ items.foldl grow c d := by
  induction items generalizing c with
  | nil => exact le_refl _
  | cons item items ih => exact (le_grow c item d).trans (ih (grow c item))

/-! ## Where an item is placed again -/

/-- The `itemY` of the item placed next. -/
def nextTop (c : Heights) : ℚ := topBelow (c (choose c))

theorem le_topBelow (h : ℚ) : h ≤ topBelow h := by
  unfold topBelow layoutRowMagin
  split
  · linarith
  · exact le_refl _

/-- The column an item is placed in comes down below its top, -/
theorem nextTop_lt_grow (c : Heights) (item : Nat) : nextTop c < grow c item (choose c) := by
  have := heightOfIndexPath_pos item
  rw [grow_choose, nextTop]
  linarith

/-- so no later item of that column starts there. -/
theorem choose_ne {y : ℚ} {d : Fin 3} (hfull : y < c d) (hy : nextTop c = y) : choose c ≠ d := by
  rintro rfl
  have := le_topBelow (c (choose c))
  rw [nextTop] at hy
  linarith

/-- **No query finds the frame stored**, in a view with a width. -/
theorem query_moves (hw : 0 ≤ nn_width) {n i : Nat} (hi : i < n) (items : List Nat) :
    frameAt nn_width (items.foldl grow (before c n)) i ≠ frameAt nn_width (before c i) i := by
  intro he
  have hx : (choose (items.foldl grow (before c n))).val * (itemW nn_width + layoutColumnMagin) =
      (choose (before c i)).val * (itemW nn_width + layoutColumnMagin) := congrArg CGRect.x he
  have hy := congrArg CGRect.y he
  have hitem : itemW nn_width + layoutColumnMagin ≠ 0 := by
    rw [itemW_eq, layoutColumnMagin]
    linarith
  have hsame : choose (items.foldl grow (before c n)) = choose (before c i) :=
    Fin.ext (by exact_mod_cast mul_right_cancel₀ hitem hx)
  refine choose_ne ?_ hy hsame
  calc nextTop (before c i)
      < before c (i + 1) (choose (before c i)) := before_succ c i ▸ nextTop_lt_grow _ _
    _ ≤ before c n (choose (before c i)) := before_mono c _ hi
    _ ≤ items.foldl grow (before c n) (choose (before c i)) := before_le_foldl items _ _

/-- Four items, with others between the first two, cannot all start at one height. -/
theorem not_four_level {y : ℚ} {c₀ c₁ : Heights} (item : Nat) (hle : ∀ d, grow c₀ item d ≤ c₁ d)
    (h₀ : nextTop c₀ = y) (hall : ∀ k, nextTop ((List.replicate k item).foldl grow c₁) = y) : False := by
  have h₁ : nextTop c₁ = y := hall 0
  have h₂ : nextTop (grow c₁ item) = y := hall 1
  have h₃ : nextTop (grow (grow c₁ item) item) = y := hall 2
  have hfull₀ : y < c₁ (choose c₀) := (h₀ ▸ nextTop_lt_grow c₀ item).trans_le (hle _)
  have hfull₁ : y < grow c₁ item (choose c₁) := h₁ ▸ nextTop_lt_grow c₁ item
  have hfull₂ : y < grow (grow c₁ item) item (choose (grow c₁ item)) := h₂ ▸ nextTop_lt_grow _ item
  have h10 : choose c₁ ≠ choose c₀ := choose_ne hfull₀ h₁
  have h20 : choose (grow c₁ item) ≠ choose c₀ := choose_ne (hfull₀.trans_le (le_grow _ _ _)) h₂
  have h21 : choose (grow c₁ item) ≠ choose c₁ := choose_ne hfull₁ h₂
  have h30 : choose (grow (grow c₁ item) item) ≠ choose c₀ :=
    choose_ne ((hfull₀.trans_le (le_grow _ _ _)).trans_le (le_grow _ _ _)) h₃
  have h31 : choose (grow (grow c₁ item) item) ≠ choose c₁ := choose_ne (hfull₁.trans_le (le_grow _ _ _)) h₃
  have h32 : choose (grow (grow c₁ item) item) ≠ choose (grow c₁ item) := choose_ne hfull₂ h₃
  omega

/-- **Queries are never pure**: after a pass over any number of items, some
query after some others returns another frame than the one stored. -/
theorem queries_never_pure (nn_width : ℚ) {n : Nat} (hn : 1 ≤ n) (layout : CustomFlowLayout) :
    ∃ layout', prepareLayout nn_width n layout = .ok layout' ∧ ¬ QueriesPure nn_width n layout' := by
  obtain ⟨layout', hpass, hstored, hquery⟩ := query_ok nn_width n layout
  refine ⟨layout', hpass, fun hpure => ?_⟩
  have hrise : ∀ d, grow (heights layout.columnArray) 0 d ≤ before (heights layout.columnArray) n d := fun d =>
    before_mono (heights layout.columnArray) d hn
  refine not_four_level 0 hrise rfl fun k => ?_
  obtain ⟨asked, attrs, after, stored, hasked, hattrs, hat, hframe⟩ :=
    hpure (List.replicate k 0) (fun j hj => (List.eq_of_mem_replicate hj).symm ▸ hn) 0 hn
  obtain ⟨asked', after', hasked', hattrs'⟩ := hquery (List.replicate k 0) 0
  obtain rfl := Except.ok.inj (hasked.symm.trans hasked')
  obtain ⟨rfl, -⟩ := Prod.mk.inj (Except.ok.inj (hattrs.symm.trans hattrs'))
  obtain rfl := Option.some.inj ((hat ⟨0, 0, 0, 0⟩).symm.trans (hstored 0 hn ⟨0, 0, 0, 0⟩))
  exact congrArg CGRect.y hframe

theorem queries_never_pure_single :
    ∃ layout', prepareLayout 375 1 fresh = .ok layout' ∧ ¬ QueriesPure 375 1 layout' :=
  queries_never_pure 375 (Nat.le_refl 1) fresh

/-- The four items of `Header.m`: item 0 stands at 10 in column 0, and a
query puts it at 80 in column 1. -/
theorem query_first_item : ∃ layout' after, prepareLayout 375 4 fresh = .ok layout' ∧
    (layout'.layoutAttributesForElementsInRect ⟨0, 0, 375, 667⟩)[0]? =
      some ⟨0, { x := 0, y := 10, width := 355 / 3, height := 50 }⟩ ∧
    layoutAttributesForItemAtIndexPath 375 layout' 0 =
      .ok (⟨0, { x := 385 / 3, y := 80, width := 355 / 3, height := 50 }⟩, after) ∧
    ¬ QueriesPure 375 4 layout' := by
  obtain ⟨layout', hpass, hstored, hquery⟩ := query_ok 375 4 fresh
  obtain ⟨asked, after, hasked, hattrs⟩ := hquery [] 0
  obtain rfl := Except.ok.inj hasked
  have hfirst : frameAt 375 (before (heights fresh.columnArray) 0) 0 =
      { x := 0, y := 10, width := 355 / 3, height := 50 } := by
    rw [heights_fresh, before_fresh]
    have hframe := frameAt_round 375 0 0
    norm_num [columnHeight, heightOfIndexPath, itemW_eq] at hframe
    exact hframe
  have hagain : frameAt 375 (before (heights fresh.columnArray) 4) 0 =
      { x := 385 / 3, y := 80, width := 355 / 3, height := 50 } := by
    have h1 : roundHeights 4 1 = 70 := by norm_num [roundHeights, columnHeight]
    rw [heights_fresh, before_fresh, frameAt, show choose (roundHeights 4) = 1 from choose_round 1 1, h1,
      topBelow_grown (.inr (by norm_num))]
    norm_num [heightOfIndexPath, itemW_eq, layoutColumnMagin]
  have hat := hstored 0 (by decide)
  rw [hfirst] at hat
  rw [List.foldl_nil, hagain] at hattrs
  refine ⟨layout', after, hpass, hat _, hattrs, fun hpure => ?_⟩
  obtain ⟨asked, attrs, after', stored, hasked, hattrs', hat', hframe⟩ :=
    hpure [] (fun _ h => absurd h List.not_mem_nil) 0 (by decide)
  obtain rfl := Except.ok.inj hasked
  obtain ⟨rfl, -⟩ := Prod.mk.inj (Except.ok.inj (hattrs.symm.trans hattrs'))
  obtain rfl := Option.some.inj ((hat ⟨0, 0, 0, 0⟩).symm.trans (hat' ⟨0, 0, 0, 0⟩))
  exact absurd (congrArg CGRect.y hframe) (by norm_num)

end LearningDemo.CustomFlowLayout
