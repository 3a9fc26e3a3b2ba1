/-
Which column an item goes to.

The search takes the first column lower than column 0, so it passes over the
shortest one exactly when column 2 is lower than column 1 and column 1 lower
than column 0 (`choose_shortest_iff`). On a fresh layout the pass never comes
there: its items go round the columns, and the heights have a closed form
(`before_fresh`). A second pass over the four items of `Header.m` does come
there (`second_pass_misses`).
-/
import LearningDemo.CustomFlowLayoutFacts
import Mathlib.Tactic.Ring

namespace LearningDemo.CustomFlowLayout

open Imperative

/-! ## An item and its column -/

/-- The column the search ends with, and its height. -/
def destColumn (columnArray : List ℚ) : C (Nat × ℚ) := do
  lookForLower columnArray (← load columnArray 0) layoutColumnCount 0

/-- An item is put into column `d`: the search ends with it, the frame stands
in it, and its height becomes the frame's lower edge. -/
structure PutInto (nn_width : ℚ) (layout : CustomFlowLayout) (item d : Nat) : Prop where
  found : ∃ columnHeight, destColumn layout.columnArray = .ok (d, columnHeight)
  placed : ∃ attrs layout', layoutAttributesForItemAtIndexPath nn_width layout item = .ok (attrs, layout') ∧
    attrs.frame.x = d * (itemW nn_width + layoutColumnMagin) ∧
    store layout.columnArray d attrs.frame.getMaxY = .ok layout'.columnArray

/-- No column is shorter than column `d`. -/
def Shortest (columnArray : List ℚ) (d : Nat) : Prop :=
  ∃ h, load columnArray d = .ok h ∧ ∀ e < layoutColumnCount, ∃ h', load columnArray e = .ok h' ∧ h ≤ h'

def GoesToShortest (nn_width : ℚ) (item : Nat) (layout : CustomFlowLayout) : Prop :=
  ∃ d, PutInto nn_width layout item d ∧ Shortest layout.columnArray d

/-- Column 1 is lower than column 0, and column 2, behind it, lower still. -/
def Hides (columnArray : List ℚ) : Prop :=
  ∃ h0 h1 h2, load columnArray 0 = .ok h0 ∧ load columnArray 1 = .ok h1 ∧ load columnArray 2 = .ok h2 ∧
    h2 < h1 ∧ h1 < h0

/-- `P` holds of every item of a pass and the layout it is placed in. -/
def EachItem (nn_width : ℚ) (count : Nat) (layout : CustomFlowLayout)
    (P : Nat → CustomFlowLayout → Prop) : Prop :=
  ∀ i < count, ∃ mid, (List.range i).foldlM (addItem nn_width)
      { layoutArrs := [], columnArray := layout.columnArray ++ List.replicate layoutColumnCount 0 } = .ok mid ∧
    P i mid

variable {nn_width : ℚ} {layout : CustomFlowLayout} {columnArray : List ℚ}

theorem load_heights (h : 3 ≤ columnArray.length) (d : Fin 3) :
    load columnArray d.val = .ok (heights columnArray d) := by
  have hlt : d.val < columnArray.length := by omega
  refine load_ok.mpr ⟨Int.natCast_nonneg _, ?_⟩
  simp [heights, hlt]

theorem destColumn_ok (h : 3 ≤ columnArray.length) : destColumn columnArray =
    .ok ((choose (heights columnArray)).val, heights columnArray (choose (heights columnArray))) := by
  obtain ⟨rest, hcols⟩ := columnArray_split h
  have hload : load columnArray 0 = .ok (heights columnArray 0) := load_heights h 0
  unfold destColumn
  rw [hload, ok_bind]
  have hlook := lookForLower_ok (heights columnArray) rest
  rwa [← hcols] at hlook

theorem layoutAttributes_column {item : Nat} {attrs : Attributes} {layout' : CustomFlowLayout}
    (h : layoutAttributesForItemAtIndexPath nn_width layout item = .ok (attrs, layout')) :
    ∃ d columnHeight, destColumn layout.columnArray = .ok (d, columnHeight) ∧
      attrs.frame.x = d * (itemW nn_width + layoutColumnMagin) ∧
      store layout.columnArray d attrs.frame.getMaxY = .ok layout'.columnArray := by
  unfold layoutAttributesForItemAtIndexPath at h
  obtain ⟨h0, hload, h⟩ := bind_ok.mp h
  obtain ⟨⟨d, columnHeight⟩, hlook, h⟩ := bind_ok.mp h
  obtain ⟨columnArray, hstore, h⟩ := bind_ok.mp h
  cases h
  refine ⟨d, columnHeight, ?_, rfl, hstore⟩
  unfold destColumn
  rw [hload, ok_bind, hlook]

theorem putInto_choose (item : Nat) (h : 3 ≤ layout.columnArray.length) :
    PutInto nn_width layout item (choose (heights layout.columnArray)).val := by
  obtain ⟨columnArray, hstep, -⟩ := layoutAttributes_ok nn_width item h rfl
  obtain ⟨d, columnHeight, hd, hx, hstore⟩ := layoutAttributes_column hstep
  have hfound := destColumn_ok h
  obtain rfl : d = (choose (heights layout.columnArray)).val :=
    congrArg Prod.fst (Except.ok.inj (hd.symm.trans hfound))
  exact ⟨⟨_, hfound⟩, _, _, hstep, hx, hstore⟩

theorem shortest_iff (h : 3 ≤ columnArray.length) (d : Fin 3) :
    Shortest columnArray d.val ↔ ∀ e, heights columnArray d ≤ heights columnArray e := by
  constructor
  · intro ⟨hd, hload, hle⟩ e
    obtain rfl := Except.ok.inj ((load_heights h d).symm.trans hload)
    obtain ⟨he, hload', hle'⟩ := hle e.val e.isLt
    rwa [Except.ok.inj ((load_heights h e).symm.trans hload')]
  · intro hle
    exact ⟨_, load_heights h d, fun e he => ⟨_, load_heights h ⟨e, he⟩, hle _⟩⟩

/-! ## When the search finds a shortest column -/

/-- The first column lower than column 0 is a shortest one, unless both are
lower and the second is the lower of them. -/
theorem choose_shortest_iff (c : Heights) : (∀ e, c (choose c) ≤ c e) ↔ ¬ (c 2 < c 1 ∧ c 1 < c 0) := by
  have hcolumns : ∀ e : Fin 3, e = 0 ∨ e = 1 ∨ e = 2 := by
    intro e
    omega
  unfold choose
  by_cases h1 : c 1 < c 0
  · rw [if_pos h1]
    constructor
    · intro h hlow
      exact absurd (h 2) (not_le.mpr hlow.1)
    · intro h e
      have h2 : c 1 ≤ c 2 := not_lt.mp fun hlt => h ⟨hlt, h1⟩
      rcases hcolumns e with rfl | rfl | rfl
      · exact h1.le
      · exact le_refl _
      · exact h2
  · rw [if_neg h1]
    refine ⟨fun _ hlow => h1 hlow.2, fun _ e => ?_⟩
    by_cases h2 : c 2 < c 0
    · rw [if_pos h2]
      rcases hcolumns e with rfl | rfl | rfl
      · exact h2.le
      · exact h2.le.trans (not_lt.mp h1)
      · exact le_refl _
    · rw [if_neg h2]
      rcases hcolumns e with rfl | rfl | rfl
      · exact le_refl _
      · exact not_lt.mp h1
      · exact not_lt.mp h2

theorem hides_iff (h : 3 ≤ columnArray.length) : Hides columnArray ↔
    heights columnArray 2 < heights columnArray 1 ∧ heights columnArray 1 < heights columnArray 0 := by
  have hload0 : load columnArray 0 = .ok (heights columnArray 0) := load_heights h 0
  have hload1 : load columnArray 1 = .ok (heights columnArray 1) := load_heights h 1
  have hload2 : load columnArray 2 = .ok (heights columnArray 2) := load_heights h 2
  unfold Hides
  rw [hload0, hload1, hload2]
  refine ⟨fun hhides => ?_, fun hlow => ⟨_, _, _, rfl, rfl, rfl, hlow⟩⟩
  obtain ⟨h0, h1, h2, he0, he1, he2, hlow⟩ := hhides
  cases he0
  cases he1
  cases he2
  exact hlow

theorem goesToShortest_item_iff (item : Nat) (h : 3 ≤ layout.columnArray.length) :
    GoesToShortest nn_width item layout ↔ ¬ Hides layout.columnArray := by
  have hput : PutInto nn_width layout item _ := putInto_choose item h
  rw [hides_iff h, ← choose_shortest_iff, ← shortest_iff h]
  constructor
  · intro ⟨d, hd, hshort⟩
    obtain ⟨_, hfound⟩ := hd.found
    obtain ⟨_, hfound'⟩ := hput.found
    obtain rfl : d = (choose (heights layout.columnArray)).val :=
      congrArg Prod.fst (Except.ok.inj (hfound.symm.trans hfound'))
    exact hshort
  · intro hshort
    exact ⟨_, hput, hshort⟩

theorem midPass_ok (nn_width : ℚ) (layout : CustomFlowLayout) (i : Nat) : ∃ mid,
    (List.range i).foldlM (addItem nn_width)
      { layoutArrs := [], columnArray := layout.columnArray ++ List.replicate layoutColumnCount 0 } = .ok mid ∧
    3 ≤ mid.columnArray.length ∧ heights mid.columnArray = before (heights layout.columnArray) i := by
  obtain ⟨mid, hmid, hshows⟩ := prepareLayout_ok nn_width i layout
  exact ⟨mid, hmid, hshows.made, hshows.heights⟩

theorem eachItem_congr {count : Nat} {P Q : Nat → CustomFlowLayout → Prop}
    (h : ∀ i mid, 3 ≤ mid.columnArray.length → heights mid.columnArray = before (heights layout.columnArray) i →
      (P i mid ↔ Q i mid)) : EachItem nn_width count layout P ↔ EachItem nn_width count layout Q := by
  refine forall₂_congr fun i _ => ?_
  obtain ⟨mid, hmid, hmade, hheights⟩ := midPass_ok nn_width layout i
  constructor
  · intro ⟨mid', hmid', hp⟩
    obtain rfl := Except.ok.inj (hmid.symm.trans hmid')
    exact ⟨mid, hmid, (h i mid hmade hheights).mp hp⟩
  · intro ⟨mid', hmid', hq⟩
    obtain rfl := Except.ok.inj (hmid.symm.trans hmid')
    exact ⟨mid, hmid, (h i mid hmade hheights).mpr hq⟩

/-- **Every item of a pass goes to a shortest column, when none of them finds
the shortest one hidden.** So it is after any passes with any counts. -/
theorem prepareLayout_shortest_iff (calls : List (ℚ × Nat)) (nn_width : ℚ) (count : Nat) :
    ∃ layout, prepareAll calls fresh = .ok layout ∧
      (EachItem nn_width count layout (GoesToShortest nn_width) ↔
        EachItem nn_width count layout fun _ mid => ¬ Hides mid.columnArray) := by
  obtain ⟨layout, hlayout, -⟩ := prepareAll_ok calls fresh
  exact ⟨layout, hlayout, eachItem_congr fun i _ hmade _ => goesToShortest_item_iff i hmade⟩

/-! ## The first pass -/

/-- How far down column `d` has come with its first `r` items. -/
def columnHeight (d r : Nat) : ℚ := 60 * r + 10 * d * r + 15 * r * (r - 1)

/-- The heights before item `i` of the first pass. -/
def roundHeights (i : Nat) : Heights := fun d => columnHeight d ((i + 2 - d) / 3)

theorem columnHeight_zero (d : Nat) : columnHeight d 0 = 0 := by
  simp [columnHeight]

theorem columnHeight_succ (d r : Nat) :
    columnHeight d (r + 1) = columnHeight d r + 10 + heightOfIndexPath (d + 3 * r) := by
  unfold columnHeight heightOfIndexPath
  push_cast
  ring

/-- In one round the columns get longer from left to right, -/
theorem columnHeight_le {d e : Nat} (h : d ≤ e) (r : Nat) : columnHeight d r ≤ columnHeight e r := by
  have hde : (d : ℚ) ≤ e := by exact_mod_cast h
  have hr : (0 : ℚ) ≤ r := Nat.cast_nonneg r
  unfold columnHeight
  nlinarith

/-- and a column that has its next item is longer than any without it. -/
theorem columnHeight_lt {e : Nat} (h : e ≤ 2) (d r : Nat) : columnHeight e r < columnHeight d (r + 1) := by
  have he : (e : ℚ) ≤ 2 := by exact_mod_cast h
  have hd : (0 : ℚ) ≤ d := Nat.cast_nonneg d
  have hr : (0 : ℚ) ≤ r := Nat.cast_nonneg r
  unfold columnHeight
  push_cast
  nlinarith [mul_nonneg hd hr, mul_nonneg hr (sub_nonneg.mpr he)]

theorem exists_round (i : Nat) : ∃ (c : Fin 3) (r : Nat), i = c + 3 * r := by
  refine ⟨⟨i % 3, by omega⟩, i / 3, ?_⟩
  show i = i % 3 + 3 * (i / 3)
  omega

theorem roundHeights_eq {c r : Nat} (hc : c < 3) (d : Fin 3) :
    roundHeights (c + 3 * r) d = columnHeight d (if d.val < c then r + 1 else r) := by
  unfold roundHeights
  congr 1
  split <;> omega

theorem roundHeights_self {c : Fin 3} {r : Nat} : roundHeights (c + 3 * r) c = columnHeight c r := by
  rw [roundHeights_eq c.isLt, if_neg (Nat.lt_irrefl c)]

theorem roundHeights_least (c d : Fin 3) (r : Nat) :
    roundHeights (c + 3 * r) c ≤ roundHeights (c + 3 * r) d := by
  rw [roundHeights_self, roundHeights_eq c.isLt]
  split
  · exact (columnHeight_lt (by omega) d r).le
  · exact columnHeight_le (by omega) r

theorem roundHeights_lt_zero (c d : Fin 3) (r : Nat) :
    roundHeights (c + 3 * r) d < roundHeights (c + 3 * r) 0 ↔ 0 < c ∧ c ≤ d := by
  have h0 : roundHeights (c + 3 * r) 0 = columnHeight 0 (if 0 < c.val then r + 1 else r) :=
    roundHeights_eq c.isLt 0
  rw [h0, roundHeights_eq c.isLt]
  by_cases hc : 0 < c.val
  · rw [if_pos hc]
    by_cases hd : d.val < c.val
    · rw [if_pos hd]
      exact iff_of_false (not_lt.mpr (columnHeight_le (Nat.zero_le _) _)) (by omega)
    · rw [if_neg hd]
      exact iff_of_true (columnHeight_lt (by omega) _ _) (by omega)
  · rw [if_neg hc, if_neg (by omega)]
    exact iff_of_false (not_lt.mpr (columnHeight_le (Nat.zero_le _) _)) (by omega)

/-- The columns of the first pass are taken in turn. -/
theorem choose_round (c : Fin 3) (r : Nat) : choose (roundHeights (c + 3 * r)) = c := by
  unfold choose
  simp only [roundHeights_lt_zero]
  revert c
  decide

/-- **The heights of the first pass.** -/
theorem before_fresh (i : Nat) : before (fun _ => 0) i = roundHeights i := by
  induction i with
  | zero =>
    funext d
    obtain rfl | rfl | rfl : d = 0 ∨ d = 1 ∨ d = 2 := by omega
    all_goals exact (columnHeight_zero _).symm
  | succ i ih =>
    have hgrown : Grown (roundHeights i) := ih ▸ Grown.fresh.before i
    obtain ⟨c, r, rfl⟩ := exists_round i
    rw [before_succ, ih]
    funext d
    by_cases hd : d = c
    · subst hd
      have hchoose := choose_round d r
      have hlong := grow_choose (roundHeights (d + 3 * r)) (d + 3 * r)
      rw [hchoose, topBelow_grown (hgrown d), roundHeights_self, ← columnHeight_succ] at hlong
      rw [hlong]
      unfold roundHeights
      congr 1
      omega
    · have hother : grow (roundHeights (c + 3 * r)) (c + 3 * r) d = roundHeights (c + 3 * r) d :=
        Function.update_of_ne (by rwa [choose_round]) _ _
      rw [hother]
      unfold roundHeights
      congr 1
      omega

theorem frameAt_round (nn_width : ℚ) (c : Fin 3) (r : Nat) :
    frameAt nn_width (roundHeights (c + 3 * r)) (c + 3 * r) =
    { x := c.val * (itemW nn_width + layoutColumnMagin), y := columnHeight c r + 10
      width := itemW nn_width, height := heightOfIndexPath (c + 3 * r) } := by
  have hgrown : Grown (roundHeights (c + 3 * r)) := before_fresh (c + 3 * r) ▸ Grown.fresh.before _
  unfold frameAt
  rw [choose_round, topBelow_grown (hgrown c), roundHeights_self]

/-- **The first pass in closed form.** Item `c + 3 * r` is the `r`-th of
column `c`, a shortest one at that moment, and its frame is known. -/
theorem firstPass_closed_form (nn_width : ℚ) (n : Nat) :
    ∃ layout, prepareLayout nn_width n fresh = .ok layout ∧ layout.layoutArrs.length = n ∧
      (∀ c r : Nat, c < 3 → c + 3 * r < n → layout.layoutArrs[c + 3 * r]? = some
        { item := c + 3 * r
          frame := { x := c * (itemW nn_width + layoutColumnMagin)
                     y := 60 * r + 10 * c * r + 15 * r * (r - 1) + 10
                     width := itemW nn_width
                     height := 50 + 10 * (c + 3 * r) } }) ∧
      EachItem nn_width n fresh fun i mid =>
        PutInto nn_width mid i (i % 3) ∧ Shortest mid.columnArray (i % 3) := by
  obtain ⟨layout, hpass, hshows⟩ := prepareLayout_ok nn_width n fresh
  refine ⟨layout, hpass, by simp [hshows.arrs], fun c r hc hi => ?_, fun i _ => ?_⟩
  · have hframe := frameAt_round nn_width ⟨c, hc⟩ r
    rw [hshows.arrs, List.getElem?_map, List.getElem?_range hi, Option.map_some, heights_fresh, before_fresh,
      hframe]
    simp only [columnHeight, heightOfIndexPath]
    push_cast
    ring_nf
  · obtain ⟨mid, hmid, hmade, hheights⟩ := midPass_ok nn_width fresh i
    obtain ⟨c, r, rfl⟩ := exists_round i
    rw [heights_fresh, before_fresh] at hheights
    have hput : PutInto nn_width mid (c + 3 * r) _ := putInto_choose _ hmade
    rw [hheights, choose_round] at hput
    have hmod : (c.val + 3 * r) % 3 = c.val := by omega
    refine ⟨mid, hmid, ?_⟩
    show PutInto nn_width mid (c + 3 * r) ((c + 3 * r) % 3) ∧ Shortest mid.columnArray ((c + 3 * r) % 3)
    rw [hmod]
    refine ⟨hput, (shortest_iff hmade c).mpr fun d => ?_⟩
    rw [hheights]
    exact roundHeights_least c d r

/-! ## A later pass -/

/-- The four items of `Header.m`, laid out twice: before the second item of
the second pass the heights are 150, 130 and 80. -/
theorem second_pass_misses : ∃ layout, prepareAll [(375, 4)] fresh = .ok layout ∧
    ¬ EachItem 375 4 layout (GoesToShortest 375) := by
  obtain ⟨layout, hlayout, hheights⟩ := prepareAll_ok [(375, 4)] fresh
  refine ⟨layout, hlayout, fun hall => ?_⟩
  obtain ⟨mid, hmid, hgoes⟩ := hall 1 (by decide)
  obtain ⟨mid', hmid', hmade, hmidHeights⟩ := midPass_ok 375 layout 1
  obtain rfl := Except.ok.inj (hmid.symm.trans hmid')
  refine (goesToShortest_item_iff 1 hmade).mp hgoes ?_
  rw [hheights, heights_fresh] at hmidHeights
  have hfour : afterAll (fun _ => 0) [(375, 4)] = roundHeights 4 := before_fresh 4
  have h0 : roundHeights 4 0 = 150 := by norm_num [roundHeights, columnHeight]
  have h1 : roundHeights 4 1 = 70 := by norm_num [roundHeights, columnHeight]
  have h2 : roundHeights 4 2 = 80 := by norm_num [roundHeights, columnHeight]
  have hchoose : choose (roundHeights 4) = 1 := choose_round 1 1
  have hput : before (roundHeights 4) 1 = Function.update (roundHeights 4) 1 130 := by
    rw [before_one, grow, hchoose, h1, topBelow_grown (.inr (by norm_num)), heightOfIndexPath]
    norm_num
  rw [hfour, hput] at hmidHeights
  rw [hides_iff hmade, hmidHeights, Function.update_self, Function.update_of_ne (by decide),
    Function.update_of_ne (by decide), h0, h2]
  norm_num

end LearningDemo.CustomFlowLayout
