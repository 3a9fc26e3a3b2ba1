/-
Dragging from a tab to another, a call of `scollFromIndex:toIndex:progress:`
at a time.

The first call of a drag sets the current index, and with it clicks the tab:
it leaves what a tap leaves, whatever its progress (`scollFromIndex_first`).
The calls after it find the index set and only scroll, and each of them
forgets the ones before (`scollFromIndex_twice`). So a drag ends as its last
call does (`drag_later`), unless that is its first.
-/
import LearningDemo.GroupSelectorHeaderFacts
import Mathlib.Algebra.Order.Ring.Rat
import Mathlib.Tactic.NormNum
import Mathlib.Tactic.Ring

namespace LearningDemo

open Imperative Screen

/-- Linear interpolation: `a` at the progress 0, `b` at 1. -/
def interpolate (a b progress : ℚ) : ℚ := a + (b - a) * progress

theorem interpolate_one (a b : ℚ) : interpolate a b 1 = b := by
  unfold interpolate
  ring

theorem eq_interpolate {a b progress : ℚ} : b = interpolate a b progress ↔ progress = 1 ∨ a = b := by
  have hrest : b - interpolate a b progress = (b - a) * (1 - progress) := by
    unfold interpolate
    ring
  rw [← sub_eq_zero, hrest, mul_eq_zero, sub_eq_zero, sub_eq_zero]
  exact ⟨fun h => h.symm.imp Eq.symm Eq.symm, fun h => h.symm.imp Eq.symm Eq.symm⟩

namespace VSGroupSelectorHeader

variable {self : VSGroupSelectorHeader} {fromIndex toIndex : Int} {progress : ℚ}

/-! ## Cells -/

/-- What `_scrollCellItemColorFromIndex:` does to a cell, with the mix it has for each component. -/
def tinted (self : VSGroupSelectorHeader) (mix : ℚ → ℚ → ℚ) (cell : HeaderCell) : HeaderCell :=
  match self.selectedColor with
  | none => cell
  | some color =>
    let normal := self.normalColor
    cell.setTextColor (some ⟨mix normal.red color.red, mix normal.green color.green,
      mix normal.blue color.blue, mix normal.alpha color.alpha⟩)

/-- What a scroll does to the cell of the tab it comes to, -/
def entered (self : VSGroupSelectorHeader) (progress : ℚ) (cell : HeaderCell) : HeaderCell :=
  self.scaled (1 + (self.selectedScale - 1) * progress)
    (self.tinted (fun normal selected => normal - (normal - selected) * progress) cell)

/-- and to the cell of the tab it leaves. -/
def leaving (self : VSGroupSelectorHeader) (progress : ℚ) (cell : HeaderCell) : HeaderCell :=
  self.scaled (self.selectedScale - (self.selectedScale - 1) * progress)
    (self.tinted (fun normal selected => selected + (normal - selected) * progress) cell)

theorem scaled_tinted_absorbs (scale scale' : ℚ) (mix mix' : ℚ → ℚ → ℚ) (cell : HeaderCell) :
    self.scaled scale (self.tinted mix (self.scaled scale' (self.tinted mix' cell))) =
      self.scaled scale (self.tinted mix cell) := by
  unfold scaled tinted
  split <;> split <;> rfl

theorem scaled_color_absorbs (scale scale' : ℚ) (color : Option UIColor) (mix : ℚ → ℚ → ℚ) (cell : HeaderCell) :
    self.scaled scale ((self.scaled scale' (self.tinted mix cell)).setTextColor color) =
      self.scaled scale (cell.setTextColor color) := by
  unfold scaled tinted
  split <;> split <;> rfl

theorem scrollCellItemColor_eq (self : VSGroupSelectorHeader) (fromIndex toIndex : Int) (progress : ℚ) :
    self.scrollCellItemColor fromIndex toIndex progress =
      let entered := self.tellCell toIndex
        (self.tinted fun normal selected => normal - (normal - selected) * progress)
      entered.tellCell fromIndex
        (self.tinted fun normal selected => selected + (normal - selected) * progress) := by
  unfold scrollCellItemColor
  split
  · rename_i hnone
    have hid (mix : ℚ → ℚ → ℚ) : self.tinted mix = id := funext fun cell => by rw [tinted, hnone]; rfl
    rw [hid, hid, tellCell, tellCell, tell_id, tell_id]
  · rename_i color hcolor
    unfold tinted
    rw [hcolor]

theorem scrollCellItemScale_eq (self : VSGroupSelectorHeader) (fromIndex toIndex : Int) (progress : ℚ) :
    self.scrollCellItemScale fromIndex toIndex progress =
      let left := self.tellCell fromIndex
        (self.scaled (self.selectedScale - (self.selectedScale - 1) * progress))
      left.tellCell toIndex (self.scaled (1 + (self.selectedScale - 1) * progress)) := by
  unfold scrollCellItemScale
  split
  · rename_i h0
    have hid (scale : ℚ) : self.scaled scale = id := funext fun cell => if_pos h0
    rw [hid, hid, tellCell, tellCell, tell_id, tell_id]
  · simp only [scaleCellItem_eq]
    rfl

theorem scrollCellItem_eq (hne : fromIndex ≠ toIndex) : self.scrollCellItem fromIndex toIndex progress =
    { self with
      cells := tell (tell self.cells toIndex (self.entered progress)) fromIndex (self.leaving progress) } := by
  rw [scrollCellItem, scrollCellItemColor_eq, scrollCellItemScale_eq]
  simp only [tellCell]
  rw [tell_comm hne, tell_pair hne.symm]
  rfl

/-! ## Calls -/

/-- What a call scrolls, before it sets the index. -/
def scrolled (self : VSGroupSelectorHeader) (fromIndex toIndex : Int) (progress : ℚ) : VSGroupSelectorHeader :=
  { self with
    underLine :=
      { x := interpolate (self.cellFrames fromIndex).x (self.cellFrames toIndex).x progress
        y := self.underLine.y
        width := interpolate (self.cellFrames fromIndex).width (self.cellFrames toIndex).width progress
        height := self.underLine.height }
    cells := tell (tell self.cells toIndex (self.entered progress)) fromIndex (self.leaving progress) }

theorem scollFromIndex_eq (hne : fromIndex ≠ toIndex) : self.scollFromIndex fromIndex toIndex progress =
    (self.scrolled fromIndex toIndex progress).setCurrentSelectIndex toIndex := by
  have hscrolled : (self.scrollUnderLine fromIndex toIndex progress).scrollCellItem fromIndex toIndex progress =
      self.scrolled fromIndex toIndex progress := by
    rw [scrollCellItem_eq hne]
    rfl
  rw [← hscrolled]
  exact if_neg hne

theorem scrolled_clickFromIndex (hne : fromIndex ≠ toIndex) (progress : ℚ) :
    (self.scrolled fromIndex toIndex progress).clickFromIndex fromIndex toIndex =
      self.clickFromIndex fromIndex toIndex := by
  have hcells : tell (tell (tell (tell self.cells toIndex (self.entered progress))
      fromIndex (self.leaving progress)) toIndex self.chosen) fromIndex self.dropped =
      tell (tell self.cells toIndex self.chosen) fromIndex self.dropped :=
    tell_pair_absorbs hne.symm self.cells (scaled_color_absorbs _ _ _ _) (scaled_color_absorbs _ _ _ _)
  rw [clickFromIndex_eq hne, clickFromIndex_eq hne]
  exact congrArg (fun cells => { self with underLine := self.underLineFrameAtIndex toIndex, cells }) hcells

theorem scrolled_scrolled (hne : fromIndex ≠ toIndex) (p q : ℚ) :
    (self.scrolled fromIndex toIndex p).scrolled fromIndex toIndex q = self.scrolled fromIndex toIndex q := by
  have hcells : tell (tell (tell (tell self.cells toIndex (self.entered p)) fromIndex (self.leaving p))
      toIndex (self.entered q)) fromIndex (self.leaving q) =
      tell (tell self.cells toIndex (self.entered q)) fromIndex (self.leaving q) :=
    tell_pair_absorbs hne.symm self.cells (scaled_tinted_absorbs _ _ _ _) (scaled_tinted_absorbs _ _ _ _)
  exact congrArg (fun cells => { self.scrolled fromIndex toIndex q with cells }) hcells

theorem scollFromIndex_first (hne : fromIndex ≠ toIndex) (hcur : self.currentSelectIndex = fromIndex)
    (progress : ℚ) : self.scollFromIndex fromIndex toIndex progress = self.setCurrentSelectIndex toIndex := by
  subst hcur
  have hclick : (self.scrolled self.currentSelectIndex toIndex progress).clickFromIndex self.currentSelectIndex
      toIndex = self.clickFromIndex self.currentSelectIndex toIndex := scrolled_clickFromIndex hne progress
  rw [scollFromIndex_eq hne, setCurrentSelectIndex, setCurrentSelectIndex, ← hclick]
  rfl

theorem scollFromIndex_later (hne : fromIndex ≠ toIndex) (hcur : self.currentSelectIndex = toIndex)
    (progress : ℚ) :
    self.scollFromIndex fromIndex toIndex progress = self.scrolled fromIndex toIndex progress := by
  have hcur' : (self.scrolled fromIndex toIndex progress).currentSelectIndex = toIndex := hcur
  rw [scollFromIndex_eq hne, setCurrentSelectIndex_self hcur']

theorem scollFromIndex_twice (hne : fromIndex ≠ toIndex) (hcur : self.currentSelectIndex = toIndex) (p q : ℚ) :
    (self.scollFromIndex fromIndex toIndex p).scollFromIndex fromIndex toIndex q =
      self.scollFromIndex fromIndex toIndex q := by
  have hcur' : (self.scrolled fromIndex toIndex p).currentSelectIndex = toIndex := hcur
  rw [scollFromIndex_later hne hcur, scollFromIndex_later hne hcur', scollFromIndex_later hne hcur,
    scrolled_scrolled hne]

/-- A drag from a tab to another, by the progress of each call. -/
def drag (self : VSGroupSelectorHeader) (fromIndex toIndex : Int) (progresses : List ℚ) :
    VSGroupSelectorHeader :=
  progresses.foldl (·.scollFromIndex fromIndex toIndex ·) self

/-- A drag that has set the index is where its last call alone would be. -/
theorem drag_later (hne : fromIndex ≠ toIndex) (hcur : self.currentSelectIndex = toIndex)
    (before : List ℚ) (progress : ℚ) :
    self.drag fromIndex toIndex (before ++ [progress]) = self.scollFromIndex fromIndex toIndex progress := by
  induction before generalizing self with
  | nil => rfl
  | cons p before ih =>
    have hcur' : (self.scollFromIndex fromIndex toIndex p).currentSelectIndex = toIndex := by
      rw [scollFromIndex_later hne hcur]
      exact hcur
    calc self.drag fromIndex toIndex (p :: before ++ [progress])
        = (self.scollFromIndex fromIndex toIndex p).drag fromIndex toIndex (before ++ [progress]) := rfl
      _ = (self.scollFromIndex fromIndex toIndex p).scollFromIndex fromIndex toIndex progress := ih hcur'
      _ = self.scollFromIndex fromIndex toIndex progress := scollFromIndex_twice hne hcur p progress

theorem drag_cons (hne : fromIndex ≠ toIndex) (hcur : self.currentSelectIndex = fromIndex)
    (first : ℚ) (between : List ℚ) (last : ℚ) :
    self.drag fromIndex toIndex (first :: between ++ [last]) =
      (self.setCurrentSelectIndex toIndex).scollFromIndex fromIndex toIndex last := by
  have hfirst : self.drag fromIndex toIndex (first :: between ++ [last]) =
      (self.scollFromIndex fromIndex toIndex first).drag fromIndex toIndex (between ++ [last]) := rfl
  rw [hfirst, scollFromIndex_first hne hcur, drag_later hne rfl]

/-! ## The end of a drag -/

theorem scaled_scaled (scale scale' : ℚ) (cell : HeaderCell) :
    self.scaled scale (self.scaled scale' cell) = self.scaled scale cell := by
  unfold scaled
  split <;> rfl

/-- A scroll to its end keeps the cell of the tab clicked, -/
theorem entered_one (self : VSGroupSelectorHeader) (cell : HeaderCell) :
    self.entered 1 (self.chosen cell) = self.chosen cell := by
  have hscale : 1 + (self.selectedScale - 1) * 1 = self.selectedScale := by ring
  have hmix : (fun normal selected : ℚ => normal - (normal - selected) * 1) = fun _ selected => selected := by
    funext normal selected
    ring
  rw [entered, chosen, hscale, hmix, tinted]
  cases self.selectedColor with
  | none => exact scaled_scaled _ _ _
  | some color => exact scaled_absorbs _ _ _ _ cell

/-- and that of the tab left. -/
theorem leaving_one (self : VSGroupSelectorHeader) (cell : HeaderCell) :
    self.leaving 1 (self.dropped cell) = self.dropped cell := by
  have hscale : self.selectedScale - (self.selectedScale - 1) * 1 = 1 := by ring
  have hmix : (fun normal selected : ℚ => selected + (normal - selected) * 1) = fun normal _ => normal := by
    funext normal selected
    ring
  rw [leaving, dropped, hscale, hmix, tinted]
  cases self.selectedColor with
  | none => exact scaled_scaled _ _ _
  | some color => exact scaled_absorbs _ _ _ _ cell

theorem setCurrentSelectIndex_of_ne (hne : fromIndex ≠ toIndex) (hcur : self.currentSelectIndex = fromIndex) :
    self.setCurrentSelectIndex toIndex =
      { self with
        currentSelectIndex := toIndex
        underLine := self.underLineFrameAtIndex toIndex
        cells := tell (tell self.cells toIndex self.chosen) fromIndex self.dropped } := by
  subst hcur
  rw [setCurrentSelectIndex, clickFromIndex_eq hne]

theorem underLineFrameAtIndex_x (self : VSGroupSelectorHeader) (index : Int) :
    (self.underLineFrameAtIndex index).x = (self.cellFrames index).x := by
  unfold underLineFrameAtIndex
  split <;> rfl

theorem underLineFrameAtIndex_width (self : VSGroupSelectorHeader) (index : Int) :
    (self.underLineFrameAtIndex index).width =
      if self.useConstantUnderLineWidth ∧ self.underLineWidth ≠ 0 then self.underLineWidth
      else (self.cellFrames index).width := by
  unfold underLineFrameAtIndex
  split <;> rfl

theorem underLineFrameAtIndex_width_eq {index : Int} :
    (self.underLineFrameAtIndex index).width = (self.cellFrames index).width ↔
      (self.useConstantUnderLineWidth → self.underLineWidth ≠ 0 →
        self.underLineWidth = (self.cellFrames index).width) := by
  rw [underLineFrameAtIndex_width]
  split
  · rename_i hconst
    exact ⟨fun h _ _ => h, fun h => h hconst.1 hconst.2⟩
  · rename_i hvary
    exact iff_of_true rfl fun huse hw => absurd ⟨huse, hw⟩ hvary

/-- After a click a scroll to its end changes the width of the underline, and nothing else. -/
theorem scrolled_one (hne : fromIndex ≠ toIndex) (hcur : self.currentSelectIndex = fromIndex) :
    (self.setCurrentSelectIndex toIndex).scrolled fromIndex toIndex 1 =
      { self.setCurrentSelectIndex toIndex with
        underLine := { self.underLineFrameAtIndex toIndex with width := (self.cellFrames toIndex).width } } := by
  have hcells : tell (tell (tell (tell self.cells toIndex self.chosen) fromIndex self.dropped)
      toIndex (self.entered 1)) fromIndex (self.leaving 1) =
      tell (tell self.cells toIndex self.chosen) fromIndex self.dropped := by
    rw [tell_pair hne.symm, funext self.entered_one, funext self.leaving_one]
  rw [setCurrentSelectIndex_of_ne hne hcur, scrolled]
  simp only [interpolate_one]
  rw [← underLineFrameAtIndex_x]
  exact congrArg (fun cells => { self with
    currentSelectIndex := toIndex
    underLine := { self.underLineFrameAtIndex toIndex with width := (self.cellFrames toIndex).width }
    cells }) hcells

/-- What is to be seen of a change between two tabs. -/
structure SameLook (fromIndex toIndex : Int) (a b : VSGroupSelectorHeader) : Prop where
  underLine : a.underLine = b.underLine
  textColor : ∀ i, i = fromIndex ∨ i = toIndex → (a.cells i).map (·.textColor) = (b.cells i).map (·.textColor)
  scale : ∀ i, i = fromIndex ∨ i = toIndex → (a.cells i).map (·.scale) = (b.cells i).map (·.scale)
  currentSelectIndex : a.currentSelectIndex = b.currentSelectIndex

theorem SameLook.refl (fromIndex toIndex : Int) (a : VSGroupSelectorHeader) : SameLook fromIndex toIndex a a :=
  ⟨rfl, fun _ _ => rfl, fun _ _ => rfl, rfl⟩

/-- A drag to the end looks like a tap exactly when it is one call, or the
underline of the tab is as wide as its cell. -/
theorem drag_like_tap_iff {progresses : List ℚ} (hne : fromIndex ≠ toIndex)
    (hcur : self.currentSelectIndex = fromIndex) (hto : IsTab self.titles toIndex)
    (hlast : progresses.getLast? = some 1) :
    ∃ tapped report, self.didSelectItem toIndex = .ok (tapped, report) ∧
      (SameLook fromIndex toIndex (self.drag fromIndex toIndex progresses) tapped ↔
        progresses.length = 1 ∨ (self.useConstantUnderLineWidth → self.underLineWidth ≠ 0 →
          self.underLineWidth = (self.cellFrames toIndex).width)) := by
  obtain ⟨report, htap⟩ := didSelectItem_ok hto
  refine ⟨_, report, htap, ?_⟩
  obtain ⟨before, rfl⟩ := List.getLast?_eq_some_iff.mp hlast
  cases before with
  | nil =>
    have honly : self.drag fromIndex toIndex [1] = self.setCurrentSelectIndex toIndex :=
      scollFromIndex_first hne hcur 1
    rw [List.nil_append, honly]
    exact iff_of_true (.refl _ _ _) (.inl rfl)
  | cons first between =>
    have hlen : (first :: between ++ [1]).length ≠ 1 := by simp
    rw [or_iff_right hlen, ← underLineFrameAtIndex_width_eq, drag_cons hne hcur, scollFromIndex_later hne rfl,
      scrolled_one hne hcur, setCurrentSelectIndex_of_ne hne hcur]
    refine ⟨fun h => (congrArg CGRect.width h.underLine).symm, fun h => ?_⟩
    refine ⟨?_, fun _ _ => rfl, fun _ _ => rfl, rfl⟩
    change { self.underLineFrameAtIndex toIndex with width := (self.cellFrames toIndex).width } = _
    rw [← h]

/-- Two tabs on screen, the first of them the current one. -/
def twoTabs (useConstantUnderLineWidth : Bool) : VSGroupSelectorHeader :=
  let self := { setup 44 ["滤镜", "美颜"] true fun i => ⟨60 * i, 14, 40, 16⟩ with useConstantUnderLineWidth }
  { self with
    underLine := self.underLineFrameAtIndex self.currentSelectIndex
    cells := put (put nothing 0 (self.dressed (0, .initWithFrame))) 1 (self.dressed (1, .initWithFrame)) }

/-- Without the constant width a drag of two calls looks like a tap. -/
theorem drag_like_tap_free : ∃ tapped report, (twoTabs false).didSelectItem 1 = .ok (tapped, report) ∧
    SameLook 0 1 ((twoTabs false).drag 0 1 [1 / 2, 1]) tapped := by
  obtain ⟨tapped, report, htap, hlook⟩ :=
    drag_like_tap_iff (show (0 : Int) ≠ 1 by decide) (rfl : (twoTabs false).currentSelectIndex = 0)
      (show IsTab ["滤镜", "美颜"] 1 by decide) (show [1 / 2, 1].getLast? = some 1 from rfl)
  exact ⟨tapped, report, htap, hlook.mpr (.inr nofun)⟩

/-- With it the underline ends as wide as the cell, 40, where a tap makes it 20 wide. -/
theorem drag_forgets_width : ∃ self : VSGroupSelectorHeader,
    (self.currentSelectIndex = 0 ∧ self.Highlighted ∧ self.underLine = self.underLineFrameAtIndex 0 ∧
      ∀ i, IsTab self.titles i → (self.cells i).isSome) ∧
    ∃ tapped report, self.didSelectItem 1 = .ok (tapped, report) ∧
      ¬ SameLook 0 1 (self.drag 0 1 [1 / 2, 1]) tapped := by
  refine ⟨twoTabs true, ⟨rfl, ?_, rfl, ?_⟩, _, _, rfl, fun h => ?_⟩
  · exact Each.put (Each.put each_nothing (iff_of_true rfl rfl)) (iff_of_false (by decide) (by decide))
  · intro i hi
    have hlt : i < 2 := hi.2
    obtain rfl | rfl : i = 0 ∨ i = 1 := by have := hi.1; omega
    · rfl
    · rfl
  · exact absurd (congrArg CGRect.width h.underLine) (by decide +kernel)

/-! ## The underline on the way -/

/-- The underline is between the cells of two tabs as the progress says. -/
def Follows (self : VSGroupSelectorHeader) (fromIndex toIndex : Int) (progress : ℚ) (underLine : CGRect) :
    Prop :=
  underLine.x = interpolate (self.cellFrames fromIndex).x (self.cellFrames toIndex).x progress ∧
    underLine.width = interpolate (self.cellFrames fromIndex).width (self.cellFrames toIndex).width progress

/-- The frame a click gives the underline is where the progress wants it. -/
def ClickFits (self : VSGroupSelectorHeader) (fromIndex toIndex : Int) (progress : ℚ) : Prop :=
  (progress = 1 ∨ (self.cellFrames fromIndex).x = (self.cellFrames toIndex).x) ∧
    (if self.useConstantUnderLineWidth ∧ self.underLineWidth ≠ 0 then self.underLineWidth
      else (self.cellFrames toIndex).width) =
      interpolate (self.cellFrames fromIndex).width (self.cellFrames toIndex).width progress

theorem follows_click : self.Follows fromIndex toIndex progress (self.underLineFrameAtIndex toIndex) ↔
    self.ClickFits fromIndex toIndex progress := by
  rw [Follows, ClickFits, underLineFrameAtIndex_x, underLineFrameAtIndex_width, eq_interpolate]

/-- The underline follows a drag exactly when the frame it gets with the click
of the first call is where that call's progress wants it. -/
theorem underLine_follows_iff {progresses : List ℚ} (hne : fromIndex ≠ toIndex)
    (hcur : self.currentSelectIndex = fromIndex) :
    (∀ past progress rest, progresses = past ++ progress :: rest → 0 ≤ progress → progress ≤ 1 →
      self.Follows fromIndex toIndex progress (self.drag fromIndex toIndex (past ++ [progress])).underLine) ↔
    ∀ progress rest, progresses = progress :: rest → 0 ≤ progress → progress ≤ 1 →
      self.ClickFits fromIndex toIndex progress := by
  have hfirst (progress : ℚ) : (self.drag fromIndex toIndex [progress]).underLine =
      self.underLineFrameAtIndex toIndex := by
    have hdrag : self.drag fromIndex toIndex [progress] = self.setCurrentSelectIndex toIndex :=
      scollFromIndex_first hne hcur progress
    rw [hdrag, setCurrentSelectIndex_of_ne hne hcur]
  refine ⟨fun h progress rest hp h0 h1 => ?_, fun h past progress rest hp h0 h1 => ?_⟩
  · have hfollows := h [] progress rest hp h0 h1
    rw [List.nil_append, hfirst] at hfollows
    exact follows_click.mp hfollows
  · cases past with
    | nil =>
      rw [List.nil_append, hfirst]
      exact follows_click.mpr (h progress rest hp h0 h1)
    | cons first between =>
      rw [drag_cons hne hcur, scollFromIndex_later hne rfl, setCurrentSelectIndex_of_ne hne hcur]
      exact ⟨rfl, rfl⟩

/-- A drag whose first call is at its end, and which then goes half way back. -/
theorem underLine_follows_back :
    (twoTabs false).Follows 0 1 (1 / 2) ((twoTabs false).drag 0 1 [1, 1 / 2]).underLine := by
  refine (underLine_follows_iff (by decide) rfl).mpr (fun progress rest hp _ _ => ?_) [1] (1 / 2) [] rfl
    (by norm_num) (by norm_num)
  obtain ⟨rfl, -⟩ := List.cons.inj hp
  exact ⟨.inl rfl, (interpolate_one _ _).symm⟩

/-- The first call of a drag, half way: the underline is at the second tab, at 60 and not at 30. -/
theorem underLine_jumps : ∃ self : VSGroupSelectorHeader, self.currentSelectIndex = 0 ∧
    ¬ self.Follows 0 1 (1 / 2) (self.drag 0 1 [1 / 2]).underLine := by
  refine ⟨twoTabs false, rfl, fun h => ?_⟩
  exact absurd h.1 (by decide +kernel)

end VSGroupSelectorHeader

end LearningDemo
