/-
The waterfall layout over any number of passes.

Only the first three entries of `columnArray` are ever read or written again,
so a pass is a walk over three heights (`prepareLayout_ok`), and it places
each item 10 below the lowest point its column has reached, never 10 itself:
a height is 0 or at least 60 (`Grown`). Hence no two items overlap
(`prepareLayout_separates`). The heights are kept from pass to pass, so a
second pass does not draw what the first one drew (`prepareLayout_repeats_iff`).
-/
import LearningDemo.CustomFlowLayout
import Mathlib.Algebra.Order.Ring.Rat
import Mathlib.Tactic.Linarith
import Mathlib.Tactic.NormNum

namespace LearningDemo.CustomFlowLayout

open Imperative

/-! ## Three heights -/

/-- How far down each column has come. -/
abbrev Heights := Fin 3 → ℚ

/-- The column the loop stops at. -/
def choose (c : Heights) : Fin 3 := if c 1 < c 0 then 1 else if c 2 < c 0 then 2 else 0

/-- The `itemY` below a height. -/
def topBelow (h : ℚ) : ℚ := if h ≠ layoutRowMagin then h + layoutRowMagin else h

/-- Where an item goes. -/
def frameAt (nn_width : ℚ) (c : Heights) (item : Nat) : CGRect where
  x := (choose c).val * (itemW nn_width + layoutColumnMagin)
  y := topBelow (c (choose c))
  width := itemW nn_width
  height := heightOfIndexPath item

/-- The heights with one more item. -/
def grow (c : Heights) (item : Nat) : Heights :=
  Function.update c (choose c) (topBelow (c (choose c)) + heightOfIndexPath item)

/-- The attributes of items placed one after another. -/
def placed (nn_width : ℚ) : Heights → List Nat → List Attributes
  | _, [] => []
  | c, i :: items => ⟨i, frameAt nn_width c i⟩ :: placed nn_width (grow c i) items

/-- The heights before item `i` of a pass. -/
def before (c : Heights) (i : Nat) : Heights := (List.range i).foldl grow c

/-- The heights in a `columnArray`; a column not made yet has none. -/
def heights (columnArray : List ℚ) : Heights := fun d => columnArray[d.val]?.getD 0

theorem heightOfIndexPath_pos (item : Nat) : 50 ≤ heightOfIndexPath item := by
  have : (0 : ℚ) ≤ item := Nat.cast_nonneg item
  unfold heightOfIndexPath
  linarith

theorem itemW_eq (nn_width : ℚ) : itemW nn_width = (nn_width - 20) / 3 := by
  unfold itemW layoutColumnMagin layoutColumnCount
  norm_num

theorem placed_append (nn_width : ℚ) (c : Heights) (items items' : List Nat) :
    placed nn_width c (items ++ items') =
      placed nn_width c items ++ placed nn_width (items.foldl grow c) items' := by
  induction items generalizing c with
  | nil => rfl
  | cons i items ih => simp [placed, ih]

theorem before_succ (c : Heights) (i : Nat) : before c (i + 1) = grow (before c i) i := by
  simp [before, List.range_succ]

theorem placed_range (nn_width : ℚ) (c : Heights) (n : Nat) : placed nn_width c (List.range n) =
    (List.range n).map fun i => ⟨i, frameAt nn_width (before c i) i⟩ := by
  induction n with
  | zero => rfl
  | succ n ih =>
    rw [List.range_succ, placed_append, ih, List.map_append]
    rfl

/-! ## The code walks over them -/

theorem columnArray_split {columnArray : List ℚ} (h : 3 ≤ columnArray.length) : ∃ rest,
    columnArray = heights columnArray 0 :: heights columnArray 1 :: heights columnArray 2 :: rest := by
  match columnArray, h with
  | a :: b :: c :: rest, _ => exact ⟨rest, rfl⟩

theorem lookForLower_ok (c : Heights) (rest : List ℚ) :
    lookForLower (c 0 :: c 1 :: c 2 :: rest) (c 0) layoutColumnCount 0 =
      .ok ((choose c).val, c (choose c)) := by
  have h0 : load (c 0 :: c 1 :: c 2 :: rest) 0 = .ok (c 0) := load_ok.mpr ⟨by decide, rfl⟩
  have h1 : load (c 0 :: c 1 :: c 2 :: rest) 1 = .ok (c 1) := load_ok.mpr ⟨by decide, rfl⟩
  have h2 : load (c 0 :: c 1 :: c 2 :: rest) 2 = .ok (c 2) := load_ok.mpr ⟨by decide, rfl⟩
  unfold choose
  by_cases hb : c 1 < c 0
  · simp [layoutColumnCount, lookForLower, h0, h1, hb]
  · by_cases hc : c 2 < c 0
    · simp [layoutColumnCount, lookForLower, h0, h1, h2, hb, hc]
    · simp [layoutColumnCount, lookForLower, h0, h1, h2, hb, hc]

theorem frameAt_getMaxY (nn_width : ℚ) (c : Heights) (item : Nat) :
    (frameAt nn_width c item).getMaxY = topBelow (c (choose c)) + heightOfIndexPath item := by
  have := heightOfIndexPath_pos item
  unfold CGRect.getMaxY
  rw [if_neg (by simp only [frameAt]; linarith)]
  rfl

theorem heights_set {columnArray : List ℚ} {d : Fin 3} (h : d.val < columnArray.length) (y : ℚ) :
    heights (columnArray.set d.val y) = Function.update (heights columnArray) d y := by
  funext e
  by_cases he : e = d
  · subst he
    simp [heights, h]
  · have hne : d.val ≠ e.val := fun hv => he (Fin.ext hv).symm
    rw [Function.update_of_ne he]
    simp [heights, List.getElem?_set_ne hne]

theorem layoutAttributes_ok (nn_width : ℚ) {layout : CustomFlowLayout} {c : Heights} (item : Nat)
    (h : 3 ≤ layout.columnArray.length) (hc : heights layout.columnArray = c) :
    ∃ columnArray, layoutAttributesForItemAtIndexPath nn_width layout item =
        .ok (⟨item, frameAt nn_width c item⟩, { layout with columnArray }) ∧
      3 ≤ columnArray.length ∧ heights columnArray = grow c item := by
  obtain ⟨rest, hcols⟩ := columnArray_split h
  rw [hc] at hcols
  have hload : load layout.columnArray 0 = .ok (c 0) := by
    rw [hcols]
    exact load_ok.mpr ⟨by decide, rfl⟩
  have hlook : lookForLower layout.columnArray (c 0) layoutColumnCount 0 =
      .ok ((choose c).val, c (choose c)) := by
    rw [hcols]
    exact lookForLower_ok c rest
  have hlt : (choose c).val < layout.columnArray.length := by omega
  have hstore : store layout.columnArray (choose c).val (frameAt nn_width c item).getMaxY =
      .ok (layout.columnArray.set (choose c).val (frameAt nn_width c item).getMaxY) := by
    simp [store, hlt]
  refine ⟨layout.columnArray.set (choose c).val (frameAt nn_width c item).getMaxY, ?_, by simpa using h, ?_⟩
  · unfold layoutAttributesForItemAtIndexPath
    rw [hload, ok_bind, hlook, ok_bind]
    exact bind_ok.mpr ⟨_, hstore, rfl⟩
  · rw [heights_set hlt, hc, frameAt_getMaxY]
    rfl

/-- A layout in the middle of a pass. -/
structure Shows (arrs : List Attributes) (c : Heights) (layout : CustomFlowLayout) : Prop where
  arrs : layout.layoutArrs = arrs
  made : 3 ≤ layout.columnArray.length
  heights : heights layout.columnArray = c

theorem addItem_ok (nn_width : ℚ) {arrs : List Attributes} {c : Heights} {layout : CustomFlowLayout}
    (item : Nat) (h : Shows arrs c layout) : ∃ layout', addItem nn_width layout item = .ok layout' ∧
      Shows (arrs ++ [⟨item, frameAt nn_width c item⟩]) (grow c item) layout' := by
  obtain ⟨columnArray, hstep, hlen, hheights⟩ := layoutAttributes_ok nn_width item h.made h.heights
  refine ⟨⟨layout.layoutArrs ++ [⟨item, frameAt nn_width c item⟩], columnArray⟩, ?_, ?_⟩
  · unfold addItem
    rw [hstep]
    rfl
  · exact ⟨by rw [h.arrs], hlen, hheights⟩

theorem addItems_ok (nn_width : ℚ) : ∀ (items : List Nat) {arrs : List Attributes} {c : Heights}
    {layout : CustomFlowLayout}, Shows arrs c layout →
    ∃ layout', items.foldlM (addItem nn_width) layout = .ok layout' ∧
      Shows (arrs ++ placed nn_width c items) (items.foldl grow c) layout' := by
  intro items
  induction items with
  | nil =>
    intro arrs c layout h
    exact ⟨layout, rfl, by simpa [placed] using h⟩
  | cons i items ih =>
    intro arrs c layout h
    obtain ⟨mid, hstep, hmid⟩ := addItem_ok nn_width i h
    obtain ⟨last, hrest, hlast⟩ := ih hmid
    refine ⟨last, by rw [List.foldlM_cons, hstep, ok_bind, hrest], ?_⟩
    simpa [placed] using hlast

theorem heights_append (columnArray : List ℚ) (n : Nat) :
    heights (columnArray ++ List.replicate n 0) = heights columnArray := by
  funext d
  unfold heights
  by_cases hd : d.val < columnArray.length
  · rw [List.getElem?_append_left hd]
  · rw [List.getElem?_append_right (by omega), List.getElem?_eq_none (show _ ≤ d.val by omega)]
    by_cases hn : d.val - columnArray.length < n
    · simp [hn]
    · simp [hn]

/-- **One pass**, on a layout in any state: it does not fail, and places the
items from the heights left by the passes before. -/
theorem prepareLayout_ok (nn_width : ℚ) (count : Nat) (layout : CustomFlowLayout) :
    ∃ layout', prepareLayout nn_width count layout = .ok layout' ∧
      Shows ((List.range count).map fun i => ⟨i, frameAt nn_width (before (heights layout.columnArray) i) i⟩)
        (before (heights layout.columnArray) count) layout' := by
  rw [← placed_range]
  refine addItems_ok nn_width (List.range count) ⟨rfl, ?_, heights_append _ _⟩
  simp [layoutColumnCount]

/-- The heights after a run of passes with these counts. -/
def afterAll (c : Heights) (calls : List (ℚ × Nat)) : Heights :=
  calls.foldl (fun c call => before c call.2) c

/-- **Any run of passes**: it does not fail, and only the counts decide the heights. -/
theorem prepareAll_ok : ∀ (calls : List (ℚ × Nat)) (layout : CustomFlowLayout),
    ∃ layout', prepareAll calls layout = .ok layout' ∧
      heights layout'.columnArray = afterAll (heights layout.columnArray) calls := by
  intro calls
  induction calls with
  | nil => exact fun layout => ⟨layout, rfl, rfl⟩
  | cons call calls ih =>
    intro layout
    obtain ⟨mid, hpass, hmid⟩ := prepareLayout_ok call.1 call.2 layout
    obtain ⟨last, hrest, hlast⟩ := ih mid
    refine ⟨last, ?_, ?_⟩
    · unfold prepareAll
      rw [List.foldlM_cons, hpass, ok_bind]
      exact hrest
    · rw [hlast, hmid.heights]
      rfl

theorem heights_fresh : heights fresh.columnArray = fun _ => 0 := by
  funext d
  simp [heights, fresh]

/-! ## What the heights can be -/

/-- A column is empty or has come down by one item at least. In particular it
is never 10 down, where the code would leave out the gap. -/
def Grown (c : Heights) : Prop := ∀ d, c d = 0 ∨ 60 ≤ c d

theorem Grown.fresh : Grown fun _ => 0 := fun _ => .inl rfl

theorem topBelow_grown {h : ℚ} (hh : h = 0 ∨ 60 ≤ h) : topBelow h = h + 10 := by
  have hne : h ≠ 10 := by
    rcases hh with hh | hh
    · rw [hh]; norm_num
    · intro he; linarith
  simp [topBelow, layoutRowMagin, hne]

theorem grow_choose (c : Heights) (item : Nat) :
    grow c item (choose c) = topBelow (c (choose c)) + heightOfIndexPath item :=
  Function.update_self _ _ _

theorem Grown.grow {c : Heights} (h : Grown c) (item : Nat) : Grown (grow c item) := by
  intro d
  by_cases hd : d = choose c
  · right
    have := heightOfIndexPath_pos item
    rw [hd, grow_choose, topBelow_grown (h _)]
    rcases h (choose c) with hc | hc <;> linarith
  · unfold CustomFlowLayout.grow
    rw [Function.update_of_ne hd]
    exact h d

theorem le_grow (c : Heights) (item : Nat) (d : Fin 3) : c d ≤ grow c item d := by
  by_cases hd : d = choose c
  · have := heightOfIndexPath_pos item
    rw [hd, grow_choose]
    unfold topBelow layoutRowMagin
    split <;> linarith
  · unfold grow
    rw [Function.update_of_ne hd]

theorem Grown.before {c : Heights} (h : Grown c) (i : Nat) : Grown (before c i) := by
  induction i with
  | zero => exact h
  | succ i ih => rw [before_succ]; exact ih.grow i

theorem before_mono (c : Heights) (d : Fin 3) {i j : Nat} (h : i ≤ j) : before c i d ≤ before c j d := by
  induction h with
  | refl => exact le_refl _
  | step _ ih => rw [before_succ]; exact ih.trans (le_grow _ _ _)

theorem Grown.afterAll {c : Heights} (h : Grown c) (calls : List (ℚ × Nat)) : Grown (afterAll c calls) := by
  induction calls generalizing c with
  | nil => exact h
  | cons call calls ih => exact ih (h.before call.2)

/-! ## No two items overlap -/

def VerticallyApart (f g : CGRect) : Prop := f.getMaxY + 10 ≤ g.y ∨ g.getMaxY + 10 ≤ f.y

def HorizontallyApart (f g : CGRect) : Prop := f.x + f.width + 10 ≤ g.x ∨ g.x + g.width + 10 ≤ f.x

/-- The frames of a pass, with the column each item was put in. -/
structure Separated (nn_width : ℚ) (arrs : List Attributes) (column : Nat → Fin 3) : Prop where
  left : ∀ a ∈ arrs, a.frame.x = (column a.item).val * (itemW nn_width + layoutColumnMagin)
  same : ∀ a ∈ arrs, ∀ b ∈ arrs, a.item ≠ b.item → column a.item = column b.item →
    VerticallyApart a.frame b.frame
  other : ∀ a ∈ arrs, ∀ b ∈ arrs, a.item ≠ b.item → column a.item ≠ column b.item →
    HorizontallyApart a.frame b.frame

theorem frameAt_below {nn_width : ℚ} {c : Heights} (h : Grown c) {i j : Nat} (hij : i < j)
    (hc : choose (before c i) = choose (before c j)) :
    (frameAt nn_width (before c i) i).getMaxY + 10 ≤ (frameAt nn_width (before c j) j).y := by
  have hmono := before_mono c (choose (before c i)) (show i + 1 ≤ j from hij)
  have hy : (frameAt nn_width (before c j) j).y = before c j (choose (before c j)) + 10 :=
    topBelow_grown (h.before j _)
  rw [before_succ, grow_choose] at hmono
  rw [frameAt_getMaxY, hy, ← hc]
  linarith

/-- Two columns are a gap apart when the items have a width. -/
theorem columns_apart {nn_width : ℚ} (hw : 20 ≤ nn_width) {d e : Fin 3} (hde : d.val < e.val) :
    d.val * (itemW nn_width + layoutColumnMagin) + itemW nn_width + 10 ≤
      e.val * (itemW nn_width + layoutColumnMagin) := by
  have hitem : 0 ≤ itemW nn_width + 10 := by rw [itemW_eq]; linarith
  have hcast : ((d.val : ℚ) + 1) ≤ e.val := by exact_mod_cast hde
  have hmul := mul_le_mul_of_nonneg_right hcast hitem
  unfold layoutColumnMagin
  linarith

theorem separated_pass {nn_width : ℚ} (hw : 20 ≤ nn_width) {c : Heights} (h : Grown c) (n : Nat) :
    Separated nn_width ((List.range n).map fun i => ⟨i, frameAt nn_width (before c i) i⟩)
      (fun i => choose (before c i)) where
  left := by
    intro a ha
    obtain ⟨i, -, rfl⟩ := List.mem_map.mp ha
    rfl
  same := by
    intro a ha b hb hne hc
    obtain ⟨i, -, rfl⟩ := List.mem_map.mp ha
    obtain ⟨j, -, rfl⟩ := List.mem_map.mp hb
    rcases Nat.lt_or_gt_of_ne hne with hij | hij
    · exact .inl (frameAt_below h hij hc)
    · exact .inr (frameAt_below h hij hc.symm)
  other := by
    intro a ha b hb _ hc
    obtain ⟨i, -, rfl⟩ := List.mem_map.mp ha
    obtain ⟨j, -, rfl⟩ := List.mem_map.mp hb
    rcases Nat.lt_or_gt_of_ne (fun he => hc (Fin.ext he)) with hij | hij
    · exact .inl (columns_apart hw hij)
    · exact .inr (columns_apart hw hij)

/-- **No overlap.** After any passes on a fresh layout, one more pass over any
number of items, in a view at least 20 wide, keeps the items of a column 10
apart vertically and any others 10 apart horizontally. -/
theorem prepareLayout_separates (calls : List (ℚ × Nat)) (nn_width : ℚ) (count : Nat)
    (hw : 20 ≤ nn_width) : ∃ layout layout', prepareAll calls fresh = .ok layout ∧
      prepareLayout nn_width count layout = .ok layout' ∧
      layout'.layoutArrs.map Attributes.item = List.range count ∧
      ∃ column, Separated nn_width layout'.layoutArrs column := by
  obtain ⟨layout, hpast, hheights⟩ := prepareAll_ok calls fresh
  obtain ⟨layout', hpass, hshows⟩ := prepareLayout_ok nn_width count layout
  have hgrown : Grown (heights layout.columnArray) := by
    rw [hheights, heights_fresh]
    exact Grown.fresh.afterAll calls
  refine ⟨layout, layout', hpast, hpass, ?_, fun i => choose (before (heights layout.columnArray) i), ?_⟩
  · rw [hshows.arrs]
    simp [Function.comp_def]
  · rw [hshows.arrs]
    exact separated_pass hw hgrown count

theorem prepareLayout_separates_phone : ∃ layout layout', prepareAll [(375, 7), (667, 4)] fresh = .ok layout ∧
    prepareLayout 375 9 layout = .ok layout' ∧ layout'.layoutArrs.map Attributes.item = List.range 9 ∧
    ∃ column, Separated 375 layout'.layoutArrs column :=
  prepareLayout_separates [(375, 7), (667, 4)] 375 9 (by norm_num)

/-! ## Repeated passes -/

/-- `k` passes on a fresh layout leave the frames the first one leaves. -/
def Repeats (nn_width : ℚ) (count k : Nat) : Prop :=
  ∃ first last, prepareLayout nn_width count fresh = .ok first ∧
    prepareAll (List.replicate k (nn_width, count)) fresh = .ok last ∧
    last.layoutArrs.map Attributes.frame = first.layoutArrs.map Attributes.frame

/-- The heights after `m` passes of `count` items each. -/
def afterPasses (count : Nat) : Nat → Heights
  | 0 => fun _ => 0
  | m + 1 => before (afterPasses count m) count

theorem afterAll_replicate (nn_width : ℚ) (count m : Nat) :
    afterAll (fun _ => 0) (List.replicate m (nn_width, count)) = afterPasses count m := by
  induction m with
  | zero => rfl
  | succ m ih =>
    rw [List.replicate_succ', afterAll, List.foldl_append]
    rw [afterAll] at ih
    rw [ih]
    rfl

theorem repeats_succ_iff (nn_width : ℚ) (count m : Nat) : Repeats nn_width count (m + 1) ↔
    ∀ i < count, frameAt nn_width (before (afterPasses count m) i) i =
      frameAt nn_width (before (fun _ => 0) i) i := by
  obtain ⟨first, hfirst, hshows⟩ := prepareLayout_ok nn_width count fresh
  obtain ⟨mid, hmid, hheights⟩ := prepareAll_ok (List.replicate m (nn_width, count)) fresh
  obtain ⟨last, hlast, hshows'⟩ := prepareLayout_ok nn_width count mid
  rw [heights_fresh] at hshows hheights
  rw [hheights, afterAll_replicate] at hshows'
  have hall : prepareAll (List.replicate (m + 1) (nn_width, count)) fresh = .ok last := by
    unfold prepareAll at hmid ⊢
    rw [List.replicate_succ', List.foldlM_append, hmid, ok_bind, List.foldlM_cons, hlast]
    rfl
  have hframes : last.layoutArrs.map Attributes.frame = first.layoutArrs.map Attributes.frame ↔
      ∀ i < count, frameAt nn_width (before (afterPasses count m) i) i =
        frameAt nn_width (before (fun _ => 0) i) i := by
    rw [hshows'.arrs, hshows.arrs, List.map_map, List.map_map, List.map_inj_left]
    simp
  constructor
  · intro ⟨first', last', hf, hl, he⟩
    obtain rfl := Except.ok.inj (hfirst.symm.trans hf)
    obtain rfl := Except.ok.inj (hall.symm.trans hl)
    exact hframes.mp he
  · intro h
    exact ⟨first, last, hfirst, hall, hframes.mpr h⟩

theorem frameAt_empty {nn_width : ℚ} {c : Heights} (h : c (choose c) = 0) (item : Nat) :
    frameAt nn_width c item =
      { x := (choose c).val * (itemW nn_width + 10), y := 10, width := itemW nn_width
        height := heightOfIndexPath item } := by
  unfold frameAt
  rw [h, topBelow_grown (.inl rfl)]
  norm_num [layoutColumnMagin]

theorem frameAt_y_full {nn_width : ℚ} {c : Heights} (h : 60 ≤ c (choose c)) (item : Nat) :
    70 ≤ (frameAt nn_width c item).y := by
  have hy : (frameAt nn_width c item).y = c (choose c) + 10 := topBelow_grown (.inr h)
  rw [hy]
  linarith

/-- The three heights, read. -/
structure Reads (c : Heights) (x y z : ℚ) : Prop where
  zero : c 0 = x
  one : c 1 = y
  two : c 2 = z

theorem Reads.grow {c : Heights} {x y z : ℚ} (h : Reads c x y z) (item : Nat) (he : c (choose c) = 0) :
    Reads (grow c item) (if choose c = 0 then 60 + item * 10 else x)
      (if choose c = 1 then 60 + item * 10 else y) (if choose c = 2 then 60 + item * 10 else z) := by
  have hval : ∀ d, CustomFlowLayout.grow c item d = if choose c = d then (60 + item * 10 : ℚ) else c d := by
    intro d
    by_cases hd : choose c = d
    · rw [if_pos hd, ← hd, grow_choose, he, topBelow_grown (.inl rfl), heightOfIndexPath]
      linarith
    · rw [if_neg hd]
      exact Function.update_of_ne (fun h => hd h.symm) _ _
  exact ⟨by rw [hval, h.zero], by rw [hval, h.one], by rw [hval, h.two]⟩

theorem Reads.first {c : Heights} (h : Reads c 0 0 0) (item : Nat) :
    choose c = 0 ∧ Reads (CustomFlowLayout.grow c item) (60 + item * 10) 0 0 := by
  have hc : choose c = 0 := by simp [choose, h.zero, h.one, h.two]
  have hgrow := h.grow item (by rw [hc]; exact h.zero)
  exact ⟨hc, by simpa [hc] using hgrow⟩

theorem Reads.second {c : Heights} {x : ℚ} (h : Reads c x 0 0) (hx : 0 < x) (item : Nat) :
    choose c = 1 ∧ Reads (CustomFlowLayout.grow c item) x (60 + item * 10) 0 := by
  have hc : choose c = 1 := by simp [choose, h.zero, h.one, hx]
  have hgrow := h.grow item (by rw [hc]; exact h.one)
  exact ⟨hc, by simpa [hc] using hgrow⟩

theorem Reads.third {c : Heights} {x y : ℚ} (h : Reads c x y 0) (hx : 0 < x) (hxy : x ≤ y) (item : Nat) :
    choose c = 2 ∧ Reads (CustomFlowLayout.grow c item) x y (60 + item * 10) := by
  have hc : choose c = 2 := by simp [choose, h.zero, h.one, h.two, hx, not_lt.mpr hxy]
  have hgrow := h.grow item (by rw [hc]; exact h.two)
  exact ⟨hc, by simpa [hc] using hgrow⟩

theorem Reads.fresh : Reads (fun _ => 0) 0 0 0 := ⟨rfl, rfl, rfl⟩

theorem before_one (c : Heights) : before c 1 = grow c 0 := rfl

theorem reads_one : Reads (before (fun _ => 0) 1) 60 0 0 := by
  simpa [before_one] using (Reads.fresh.first 0).2

theorem reads_two : Reads (before (fun _ => 0) 2) 60 70 0 := by
  have h := (reads_one.second (by norm_num) 1).2
  rw [before_succ]
  norm_num at h
  exact h

/-! ### Passes of one item -/

theorem reads_pass_two : Reads (afterPasses 1 2) 60 60 0 := by
  simpa [afterPasses, before_one] using (reads_one.second (by norm_num) 0).2

theorem reads_pass_three : Reads (afterPasses 1 3) 60 60 60 := by
  have h := (reads_pass_two.third (by norm_num) (le_refl _) 0).2
  rw [← before_one] at h
  norm_num at h
  exact h

theorem afterPasses_mono (count : Nat) (d : Fin 3) {m m' : Nat} (h : m ≤ m') :
    afterPasses count m d ≤ afterPasses count m' d := by
  induction h with
  | refl => exact le_refl _
  | step _ ih => exact ih.trans (before_mono _ d (Nat.zero_le count))

theorem grown_afterPasses (count m : Nat) : Grown (afterPasses count m) := by
  induction m with
  | zero => exact Grown.fresh
  | succ m ih => exact ih.before count

/-! ### When a later pass can draw the same -/

theorem empty_of_y {nn_width : ℚ} {c : Heights} {item : Nat} (h : Grown c)
    (hy : (frameAt nn_width c item).y = 10) : c (choose c) = 0 := by
  rcases h (choose c) with h0 | h60
  · exact h0
  · have hfull : 70 ≤ (frameAt nn_width c item).y := frameAt_y_full h60 item
    linarith

theorem frameAt_second_y (nn_width : ℚ) : (frameAt nn_width (before (fun _ => 0) 1) 1).y = 10 := by
  have hc := (reads_one.second (by norm_num) 1).1
  have he : before (fun _ => 0) 1 (choose (before (fun _ => 0) 1)) = 0 := by rw [hc]; exact reads_one.one
  rw [frameAt_empty he]

theorem frameAt_first (nn_width : ℚ) : frameAt nn_width (fun _ => 0) 0 =
    { x := 0, y := 10, width := itemW nn_width, height := heightOfIndexPath 0 } := by
  have hc := (Reads.fresh.first 0).1
  rw [frameAt_empty rfl, hc]
  simp

/-- The first item is drawn as before only in a view with columns on one another. -/
theorem repeats_width {nn_width : ℚ} {c : Heights} (h : Grown c) (h0 : 60 ≤ c 0)
    (he : frameAt nn_width c 0 = frameAt nn_width (fun _ => 0) 0) :
    choose c ≠ 0 ∧ c (choose c) = 0 ∧ nn_width = -10 := by
  rw [frameAt_first] at he
  have hempty : c (choose c) = 0 := empty_of_y h (congrArg CGRect.y he)
  have hne : choose c ≠ 0 := by
    intro hc
    rw [hc] at hempty
    linarith
  have hx := congrArg CGRect.x he
  rw [frameAt_empty hempty, itemW_eq] at hx
  have hcol : ((choose c).val : ℚ) ≠ 0 := by
    intro hz
    exact hne (by exact_mod_cast hz)
  have hsum := (mul_eq_zero.mp hx).resolve_left hcol
  refine ⟨hne, hempty, ?_⟩
  linarith

/-- With two items or more, one of the first two has moved: the first took the
only empty column. -/
theorem repeats_single {nn_width : ℚ} {c : Heights} (h : Grown c) (h0 : 60 ≤ c 0) (h1 : 60 ≤ c 1)
    (he : frameAt nn_width c 0 = frameAt nn_width (fun _ => 0) 0) :
    (frameAt nn_width (before c 1) 1).y ≠ (frameAt nn_width (before (fun _ => 0) 1) 1).y := by
  obtain ⟨hne, hempty, -⟩ := repeats_width h h0 he
  have hfull : ∀ d, 60 ≤ before c 1 d := by
    intro d
    rw [before_one]
    have hle := le_grow c 0 d
    by_cases hd : d = choose c
    · rw [hd, grow_choose, hempty, topBelow_grown (.inl rfl), heightOfIndexPath]
      norm_num
    · have hd01 : d = 0 ∨ d = 1 := by
        have hne1 : choose c ≠ 1 := by
          intro hc
          rw [hc] at hempty
          linarith
        omega
      rcases hd01 with rfl | rfl <;> linarith
  rw [frameAt_second_y]
  have hy : 70 ≤ (frameAt nn_width (before c 1) 1).y := frameAt_y_full (hfull _) 1
  intro hy'
  linarith

theorem frameAt_empty_zero_width {c : Heights} (h : c (choose c) = 0) :
    frameAt (-10) c 0 = frameAt (-10) (fun _ => 0) 0 := by
  rw [frameAt_first, frameAt_empty h, itemW_eq]
  norm_num

/-- **Repeating the layout.** The later of `k` passes leaves the frames of the
first when it is the first, or (a width the three columns of which lie on one
another) when there is one item and at most three passes. -/
theorem prepareLayout_repeats_iff (nn_width : ℚ) (count k : Nat) (hn : 1 ≤ count) (hk : 1 ≤ k) :
    Repeats nn_width count k ↔ k = 1 ∨ (nn_width = -10 ∧ count = 1 ∧ k ≤ 3) := by
  obtain ⟨m, rfl⟩ : ∃ m, k = m + 1 := ⟨k - 1, by omega⟩
  rw [repeats_succ_iff]
  constructor
  · intro he
    rcases Nat.eq_zero_or_pos m with rfl | hm
    · exact .inl rfl
    · right
      have hgrown := grown_afterPasses count m
      have hone : afterPasses count 1 = before (fun _ => 0) count := rfl
      have h0 : 60 ≤ afterPasses count m 0 := by
        have hle := (before_mono (fun _ => 0) 0 hn).trans (hone ▸ afterPasses_mono count 0 hm)
        rwa [reads_one.zero] at hle
      obtain ⟨-, hempty, hw⟩ := repeats_width hgrown h0 (he 0 hn)
      have hcount : count = 1 := by
        by_contra hne
        have hle := (before_mono (fun _ => 0) 1 (show 2 ≤ count by omega)).trans
          (hone ▸ afterPasses_mono count 1 hm)
        rw [reads_two.one] at hle
        exact repeats_single hgrown h0 (by linarith) (he 0 hn) (congrArg CGRect.y (he 1 (by omega)))
      refine ⟨hw, hcount, ?_⟩
      by_contra hlt
      subst hcount
      have hmono := fun d => afterPasses_mono 1 d (show 3 ≤ m by omega)
      have hfull : ∀ d, 60 ≤ afterPasses 1 3 d := by
        intro d
        obtain rfl | rfl | rfl : d = 0 ∨ d = 1 ∨ d = 2 := by omega
        · exact reads_pass_three.zero.ge
        · exact reads_pass_three.one.ge
        · exact reads_pass_three.two.ge
      have hlow := (hfull _).trans (hmono (choose (afterPasses 1 m)))
      linarith
  · intro h i hi
    rcases h with hm | ⟨rfl, rfl, hm⟩
    · obtain rfl : m = 0 := by omega
      rfl
    · obtain rfl : i = 0 := by omega
      obtain rfl | rfl | rfl : m = 0 ∨ m = 1 ∨ m = 2 := by omega
      · rfl
      · refine frameAt_empty_zero_width ?_
        have hc := (reads_one.second (by norm_num) 0).1
        exact hc ▸ reads_one.one
      · refine frameAt_empty_zero_width ?_
        have hc := (reads_pass_two.third (by norm_num) (le_refl _) 0).1
        exact hc ▸ reads_pass_two.two

theorem prepareLayout_repeats_third :
    Repeats 375 5 3 ↔ (3 = 1 ∨ ((375 : ℚ) = -10 ∧ 5 = 1 ∧ 3 ≤ 3)) :=
  prepareLayout_repeats_iff 375 5 3 (by decide) (by decide)

/-- Two passes over one item, in a view 320 wide: the second puts it into the second column. -/
theorem prepareLayout_moves : ¬ ∀ (nn_width : ℚ) (count k : Nat), 1 ≤ count → 1 ≤ k →
    Repeats nn_width count k := by
  intro h
  have he := (repeats_succ_iff 320 1 1).mp (h 320 1 2 (by decide) (by decide)) 0 (by decide)
  have hw := (repeats_width (grown_afterPasses 1 1) reads_one.zero.ge he).2.2
  norm_num at hw

end LearningDemo.CustomFlowLayout
