/-
The tabs of `groupSelector/VSGroupSelectorHeader.m`, as the code computes
them, with the part of the collection view they show: its cells on screen
and the frames of its layout. A cell coming on screen and a reload ask the
data source for the cell, handing it one to reuse.

An animation sets the frame at once and shows it later; scrolling an item
into the middle only brings other cells on screen, which is a step of its own.
-/
import LearningDemo.UIKit
import LearningDemo.Lib.Cells
import LearningDemo.Lib.Screen

namespace LearningDemo

open Imperative Screen

/-- A `VSGroupHeaderCollectionViewCell`: its label, and the scale of its transform. -/
structure HeaderCell where
  text : String
  textColor : UIColor
  backgroundColor : UIColor
  font : UIFont
  scale : ℚ
  deriving DecidableEq, Repr

/-- `initWithFrame:`, with `addTabTitleLabel`. -/
def HeaderCell.initWithFrame : HeaderCell where
  text := ""
  textColor := .darkTextColor
  backgroundColor := .clearColor
  font := systemFontOfSize 17
  scale := 1

/-- `titleLabel.textColor = color`; a label without a colour is black. -/
def HeaderCell.setTextColor (cell : HeaderCell) (color : Option UIColor) : HeaderCell :=
  { cell with textColor := color.getD .blackColor }

/-- `transform = CGAffineTransformMakeScale(scale, scale)`. -/
def HeaderCell.setScale (cell : HeaderCell) (scale : ℚ) : HeaderCell := { cell with scale }

structure VSGroupSelectorHeader where
  titles : List String
  /-- There is a delegate, and it responds to `clickAtIndex:titleStr:`. -/
  delegate : Bool
  normalFont : UIFont
  normalColor : UIColor
  selectedColor : Option UIColor
  useConstantUnderLineWidth : Bool
  underLineWidth : ℚ
  underLineHeight : ℚ
  selectedScale : ℚ
  currentSelectIndex : Int
  /-- `self.frame.size.height`. -/
  height : ℚ
  /-- The collection view's cells on screen, -/
  cells : Cells Int HeaderCell
  /-- and the frames of its layout attributes. -/
  cellFrames : Int → CGRect
  /-- `underLine.frame`. -/
  underLine : CGRect

namespace VSGroupSelectorHeader

/-! ## Frames -/

/-- `_cellFrameAtIndex:`. -/
def cellFrameAtIndex (self : VSGroupSelectorHeader) (index : Int) : CGRect := self.cellFrames index

/-- `_underLineFrameAtIndex:`. -/
def underLineFrameAtIndex (self : VSGroupSelectorHeader) (index : Int) : CGRect :=
  let cellFrame := self.cellFrameAtIndex index
  let underLineOriginX := cellFrame.x
  if self.useConstantUnderLineWidth ∧ self.underLineWidth ≠ 0 then
    { x := underLineOriginX, y := self.height - self.underLineHeight
      width := self.underLineWidth, height := self.underLineHeight }
  else
    { x := underLineOriginX, y := self.height - self.underLineHeight
      width := cellFrame.width, height := self.underLineHeight }

/-! ## Set up -/

/-- `initWithSize:`, with the defaults of `_setupCommonProps`, and
`setupSubViews` after it: no cell is on screen yet. -/
def setup (height : ℚ) (titles : List String) (delegate : Bool) (cellFrames : Int → CGRect) :
    VSGroupSelectorHeader :=
  let self : VSGroupSelectorHeader := {
    titles, delegate, height, cellFrames
    normalFont := systemFontOfSize 16
    normalColor := .gray 1 (1 / 2)
    selectedColor := some .redColor
    useConstantUnderLineWidth := false
    underLineWidth := 20
    underLineHeight := 3
    selectedScale := 0
    currentSelectIndex := 0
    cells := nothing
    underLine := { x := 0, y := 0, width := 0, height := 0 } }
  { self with underLine := self.underLineFrameAtIndex self.currentSelectIndex }

/-! ## Cells -/

/-- `[_collectionView cellForItemAtIndexPath:]`, and a message to what it returns. -/
def tellCell (self : VSGroupSelectorHeader) (index : Int) (f : HeaderCell → HeaderCell) :
    VSGroupSelectorHeader :=
  { self with cells := tell self.cells index f }

/-- `_scaleCellItem:scale:`. -/
def scaleCellItem (self : VSGroupSelectorHeader) (index : Int) (scale : ℚ) : VSGroupSelectorHeader :=
  if self.selectedScale = 0 then self else self.tellCell index (·.setScale scale)

/-! ## Scrolling to a tab -/

/-- `_scrollUnderLineFromIndex:toIndex:progress:`. -/
def scrollUnderLine (self : VSGroupSelectorHeader) (fromIndex toIndex : Int) (progress : ℚ) :
    VSGroupSelectorHeader :=
  let fromIndexCellFrame := self.cellFrameAtIndex fromIndex
  let toIndexCellFrame := self.cellFrameAtIndex toIndex
  let currentOriginX := fromIndexCellFrame.x + (toIndexCellFrame.x - fromIndexCellFrame.x) * progress
  let currentWidth := fromIndexCellFrame.width + (toIndexCellFrame.width - fromIndexCellFrame.width) * progress
  { self with underLine :=
      { x := currentOriginX, y := self.underLine.y, width := currentWidth, height := self.underLine.height } }

/-- `_scrollCellItemColorFromIndex:toIndex:progress:`. The selected colour
fades into the normal one on the cell left, and the other way round. -/
def scrollCellItemColor (self : VSGroupSelectorHeader) (fromIndex toIndex : Int) (progress : ℚ) :
    VSGroupSelectorHeader :=
  match self.selectedColor with
  | none => self
  | some selectedColor =>
    let fade (c : UIColor → ℚ) : ℚ := c selectedColor + (c self.normalColor - c selectedColor) * progress
    let rise (c : UIColor → ℚ) : ℚ := c self.normalColor - (c self.normalColor - c selectedColor) * progress
    let currentNormalColor : UIColor := ⟨fade (·.red), fade (·.green), fade (·.blue), fade (·.alpha)⟩
    let currentSelectColor : UIColor := ⟨rise (·.red), rise (·.green), rise (·.blue), rise (·.alpha)⟩
    let self := self.tellCell toIndex (·.setTextColor (some currentSelectColor))
    self.tellCell fromIndex (·.setTextColor (some currentNormalColor))

/-- `_scrollCellItemScaleFromIndex:toIndex:progress:`. -/
def scrollCellItemScale (self : VSGroupSelectorHeader) (fromIndex toIndex : Int) (progress : ℚ) :
    VSGroupSelectorHeader :=
  if self.selectedScale = 0 then self
  else
    let scale := self.selectedScale
    let currentSelectScale := scale - (scale - 1) * progress
    let currentNormalScale := 1 + (scale - 1) * progress
    let self := self.scaleCellItem fromIndex currentSelectScale
    self.scaleCellItem toIndex currentNormalScale

/-- `_scrollCellItemFromIndex:toIndex:progress:`. -/
def scrollCellItem (self : VSGroupSelectorHeader) (fromIndex toIndex : Int) (progress : ℚ) :
    VSGroupSelectorHeader :=
  let self := self.scrollCellItemColor fromIndex toIndex progress
  self.scrollCellItemScale fromIndex toIndex progress

/-! ## Clicking a tab -/

/-- `_clickUnderLineFromIndex:toIndex:animated:`. -/
def clickUnderLine (self : VSGroupSelectorHeader) (toIndex : Int) : VSGroupSelectorHeader :=
  { self with underLine := self.underLineFrameAtIndex toIndex }

/-- `_clickCellItemFromIndex:toIndex:animated:`. -/
def clickCellItem (self : VSGroupSelectorHeader) (fromIndex toIndex : Int) : VSGroupSelectorHeader :=
  let self := self.tellCell toIndex (·.setTextColor self.selectedColor)
  let self := self.tellCell fromIndex (·.setTextColor (some self.normalColor))
  let self := self.scaleCellItem toIndex self.selectedScale
  self.scaleCellItem fromIndex 1

/-- `clickFromIndex:toIndex:animated:`. -/
def clickFromIndex (self : VSGroupSelectorHeader) (fromIndex toIndex : Int) : VSGroupSelectorHeader :=
  if fromIndex = toIndex then self
  else
    let self := self.clickUnderLine toIndex
    self.clickCellItem fromIndex toIndex

/-! ## Public methods -/

/-- `setCurrentSelectIndex:`. -/
def setCurrentSelectIndex (self : VSGroupSelectorHeader) (currentSelectIndex : Int) : VSGroupSelectorHeader :=
  let self := self.clickFromIndex self.currentSelectIndex currentSelectIndex
  { self with currentSelectIndex }

/-- `scollFromIndex:toIndex:progress:`. -/
def scollFromIndex (self : VSGroupSelectorHeader) (fromIndex toIndex : Int) (progress : ℚ) :
    VSGroupSelectorHeader :=
  if fromIndex = toIndex then self
  else
    let self := self.scrollUnderLine fromIndex toIndex progress
    let self := self.scrollCellItem fromIndex toIndex progress
    self.setCurrentSelectIndex toIndex

/-! ## Data source and delegate of the collection view -/

/-- `collectionView:cellForItemAtIndexPath:`, with the cell it dequeues. The
first tab is taken for the selected one. -/
def cellForItem (self : VSGroupSelectorHeader) (cell : HeaderCell) (index : Int) :
    C (HeaderCell × VSGroupSelectorHeader) := do
  let text ← load self.titles index
  let cell := { cell with backgroundColor := .orangeColor, text }
  let cell := cell.setTextColor (some self.normalColor)
  let cell := { cell with font := self.normalFont }
  if index = 0 then
    pure (cell.setTextColor self.selectedColor, self.scaleCellItem index self.selectedScale)
  else pure (cell, self)

/-- A cell comes on screen. -/
def appear (self : VSGroupSelectorHeader) (p : Int × HeaderCell) : C VSGroupSelectorHeader := do
  let (cell, self) ← self.cellForItem p.2 p.1
  pure { self with cells := put self.cells p.1 cell }

/-- `setTitles:`, after which the layout has these frames and the reload
brings these cells on screen. -/
def setTitles (self : VSGroupSelectorHeader) (titles : List String) (cellFrames : Int → CGRect)
    (visible : List (Int × HeaderCell)) : C VSGroupSelectorHeader :=
  visible.foldlM appear { self with titles, cellFrames, cells := nothing }

/-- `collectionView:didSelectItemAtIndexPath:`, and what it calls the
delegate's `clickAtIndex:titleStr:` with. -/
def didSelectItem (self : VSGroupSelectorHeader) (index : Int) :
    C (VSGroupSelectorHeader × Option (Int × String)) := do
  let self := self.clickFromIndex self.currentSelectIndex index
  let self := self.setCurrentSelectIndex index
  if self.delegate then pure (self, some (index, ← load self.titles index)) else pure (self, none)

/-! ## Runs -/

/-- What the user, the owner and the collection view do. -/
inductive Op where
  | tap (index : Int)
  | assign (index : Int)
  | setTitles (titles : List String) (cellFrames : Int → CGRect) (visible : List (Int × HeaderCell))
  | appear (index : Int) (dequeued : HeaderCell)
  | disappear (index : Int)

/-- There is a tab at the index. -/
def IsTab (titles : List String) (index : Int) : Prop := 0 ≤ index ∧ index < titles.length

instance IsTab.decidable (titles : List String) (index : Int) : Decidable (IsTab titles index) :=
  inferInstanceAs (Decidable (_ ∧ _))

/-- Only tabs are tapped, assigned and shown, and the current one stays a tab. -/
def Valid (self : VSGroupSelectorHeader) : Op → Prop
  | .tap index | .assign index | .appear index _ => IsTab self.titles index
  | .setTitles titles _ visible => IsTab titles self.currentSelectIndex ∧ ∀ p ∈ visible, IsTab titles p.1
  | .disappear _ => True

instance Valid.decidable (self : VSGroupSelectorHeader) : (op : Op) → Decidable (Valid self op)
  | .tap _ | .assign _ | .appear _ _ => inferInstanceAs (Decidable (IsTab _ _))
  | .setTitles _ _ _ => inferInstanceAs (Decidable (_ ∧ _))
  | .disappear _ => inferInstanceAs (Decidable True)

def perform (self : VSGroupSelectorHeader) : Op → C VSGroupSelectorHeader
  | .tap index => do pure (← self.didSelectItem index).1
  | .assign index => pure (self.setCurrentSelectIndex index)
  | .setTitles titles cellFrames visible => self.setTitles titles cellFrames visible
  | .appear index dequeued => self.appear (index, dequeued)
  | .disappear index => pure { self with cells := remove self.cells index }

def step (self : VSGroupSelectorHeader) (op : Op) : Option VSGroupSelectorHeader :=
  if Valid self op then (perform self op).toOption else none

end VSGroupSelectorHeader

end LearningDemo
