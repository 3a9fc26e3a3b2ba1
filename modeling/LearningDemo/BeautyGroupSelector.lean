/-
The level selector of `groupSelector/VSBeautyGroupSelector.m`, as the code
computes it, with the cells of its collection view on screen: one for each
level from 0 to `levelCount`. A cell coming on screen and a reload ask the
data source for the cell, handing it one to reuse. Levels and indexes are
natural numbers: a level that is no index in an `NSInteger` has no cell.

A touch goes to the view that the hit test of the selector names; only a touch
that goes to the collection view selects an item of it.
-/
import LearningDemo.UIKit
import LearningDemo.Lib.Screen

namespace LearningDemo

open Screen

/-- The label of a `VSBeautyGroupCollectionViewCell`. -/
structure BeautyCell where
  text : String
  textColor : UIColor
  backgroundColor : UIColor
  borderColor : UIColor
  font : UIFont
  deriving DecidableEq, Repr

/-- `initWithFrame:`, with `_addSubViews`. -/
def BeautyCell.initWithFrame : BeautyCell where
  text := ""
  textColor := .darkTextColor
  backgroundColor := .clearColor
  borderColor := .blackColor
  font := systemFontOfSize 17

/-- `label.font = font`; a label without a font has the system's. -/
def BeautyCell.setFont (cell : BeautyCell) (font : Option UIFont) : BeautyCell :=
  { cell with font := font.getD (systemFontOfSize 17) }

structure VSBeautyGroupSelector where
  /-- In the superview. -/
  frame : CGRect
  /-- There is a delegate, and it responds to `vsBeautyGroupSelector:selectLevel:`. -/
  delegate : Bool
  normalBgColor : UIColor
  selectedBgColor : UIColor
  normalTextColor : UIColor
  selectedTextColor : UIColor
  borderColor : UIColor
  normalFont : Option UIFont
  selectedFont : Option UIFont
  levelCount : Nat
  currentLevel : Nat
  /-- The collection view's cells on screen. -/
  cells : Cells Nat BeautyCell

namespace VSBeautyGroupSelector

/-- `initWithSize:`, with the defaults of `_initProps`, and its delegate. -/
def initWithSize (size : CGSize) (delegate : Bool) : VSBeautyGroupSelector where
  frame := { x := 0, y := 0, width := size.width, height := size.height }
  delegate
  normalBgColor := .gray 1 (1 / 5)
  selectedBgColor := .redColor
  normalTextColor := .whiteColor
  selectedTextColor := .whiteColor
  borderColor := .whiteColor
  normalFont := some (systemFontOfSize 16)
  selectedFont := none
  levelCount := 5
  currentLevel := 0
  cells := nothing

/-! ## Cells -/

/-- `_setupCell:selected:`. -/
def setupCell (self : VSBeautyGroupSelector) (cell : BeautyCell) (selected : Bool) : BeautyCell :=
  if ¬ selected then
    let cell := { cell with
      backgroundColor := self.normalBgColor
      borderColor := self.borderColor
      textColor := self.normalTextColor }
    cell.setFont self.normalFont
  else
    let cell := { cell with
      backgroundColor := self.selectedBgColor
      borderColor := self.borderColor
      textColor := self.selectedTextColor }
    cell.setFont self.selectedFont

/-- `_setupCellItemAtIndex:selected:`, a message to nil when the cell is off screen. -/
def setupCellItemAtIndex (self : VSBeautyGroupSelector) (index : Nat) (selected : Bool) :
    VSBeautyGroupSelector :=
  { self with cells := tell self.cells index (self.setupCell · selected) }

/-- `setCurrentLevel:`. -/
def setCurrentLevel (self : VSBeautyGroupSelector) (currentLevel : Nat) : VSBeautyGroupSelector :=
  let self := self.setupCellItemAtIndex self.currentLevel false
  let self := self.setupCellItemAtIndex currentLevel true
  { self with currentLevel }

/-! ## Data source and delegate of the collection view -/

/-- `collectionView:numberOfItemsInSection:`. -/
def numberOfItemsInSection (self : VSBeautyGroupSelector) : Nat := self.levelCount + 1

/-- `collectionView:cellForItemAtIndexPath:`, with the cell it dequeues. -/
def cellForItem (self : VSBeautyGroupSelector) (cell : BeautyCell) (index : Nat) : BeautyCell :=
  let cell := { cell with text := toString index }
  let cell := self.setupCell cell false
  if index = self.currentLevel then self.setupCell cell true else cell

/-- `collectionView:didSelectItemAtIndexPath:`, and the level it tells the delegate. -/
def didSelectItem (self : VSBeautyGroupSelector) (index : Nat) : VSBeautyGroupSelector × Option Nat :=
  let self := self.setupCellItemAtIndex self.currentLevel true
  let self := self.setupCellItemAtIndex index true
  let self := self.setCurrentLevel index
  (self, if self.delegate then some self.currentLevel else none)

/-- A cell comes on screen. -/
def appear (self : VSBeautyGroupSelector) (p : Nat × BeautyCell) : VSBeautyGroupSelector :=
  { self with cells := put self.cells p.1 (self.cellForItem p.2 p.1) }

/-- `setLevelCount:`, whose reload brings these cells on screen. -/
def setLevelCount (self : VSBeautyGroupSelector) (levelCount : Nat) (visible : List (Nat × BeautyCell)) :
    VSBeautyGroupSelector :=
  visible.foldl appear { self with levelCount, cells := nothing }

/-! ## Touches -/

/-- The views a touch on the selector can go to: itself, or what it shows the cells in. -/
inductive HitView where
  | selector
  | collectionView
  deriving DecidableEq, Repr

/-- `pointInside:withEvent:` of `UIView`: the point is in the bounds. -/
def pointInside (self : VSBeautyGroupSelector) (point : CGPoint) : Bool :=
  CGRect.containsPoint { x := 0, y := 0, width := self.frame.width, height := self.frame.height } point

/-- `convertPoint:toView:` with the superview. -/
def convertToSuperview (self : VSBeautyGroupSelector) (point : CGPoint) : CGPoint :=
  { x := self.frame.x + point.x, y := self.frame.y + point.y }

/-- `hitTest:withEvent:`. -/
def hitTest (self : VSBeautyGroupSelector) (point : CGPoint) : Option HitView :=
  let point := self.convertToSuperview point
  let inside := self.pointInside point
  if inside then some .selector else none

/-- `touchesBegan:withEvent:`, which is empty. -/
def touchesBegan (self : VSBeautyGroupSelector) : VSBeautyGroupSelector := self

/-- A tap on the item at an index, for the view that is hit. -/
def touch (self : VSBeautyGroupSelector) (index : Nat) : Option HitView → VSBeautyGroupSelector × Option Nat
  | some .collectionView => self.didSelectItem index
  | some .selector => (self.touchesBegan, none)
  | none => (self, none)

/-! ## Runs -/

/-- What the user, the owner and the collection view do. -/
inductive Op where
  /-- A tap on the item at the index, at this point of the selector. -/
  | tap (index : Nat) (point : CGPoint)
  | assign (currentLevel : Nat)
  | setLevelCount (levelCount : Nat) (visible : List (Nat × BeautyCell))
  | appear (index : Nat) (dequeued : BeautyCell)
  | disappear (index : Nat)

/-- Only the items of the collection view are tapped and shown; any level may be assigned. -/
def Valid (self : VSBeautyGroupSelector) : Op → Prop
  | .tap index _ | .appear index _ => index < self.numberOfItemsInSection
  | .setLevelCount levelCount visible =>
    ∀ p ∈ visible, p.1 < ({ self with levelCount } : VSBeautyGroupSelector).numberOfItemsInSection
  | .assign _ | .disappear _ => True

instance Valid.decidable (self : VSBeautyGroupSelector) : (op : Op) → Decidable (Valid self op)
  | .tap _ _ | .appear _ _ => inferInstanceAs (Decidable (_ < _))
  | .setLevelCount _ _ => inferInstanceAs (Decidable (∀ p ∈ _, _ < _))
  | .assign _ | .disappear _ => inferInstanceAs (Decidable True)

/-- What an operation does, and what it tells the delegate. -/
def perform (self : VSBeautyGroupSelector) : Op → VSBeautyGroupSelector × Option Nat
  | .tap index point => self.touch index (self.hitTest point)
  | .assign currentLevel => (self.setCurrentLevel currentLevel, none)
  | .setLevelCount levelCount visible => (self.setLevelCount levelCount visible, none)
  | .appear index dequeued => (self.appear (index, dequeued), none)
  | .disappear index => ({ self with cells := remove self.cells index }, none)

/-- A step of a selector and of all its delegate was told so far. -/
def step (s : VSBeautyGroupSelector × List Nat) (op : Op) : Option (VSBeautyGroupSelector × List Nat) :=
  if Valid s.1 op then
    let (self, told) := perform s.1 op
    some (self, s.2 ++ told.toList)
  else none

end VSBeautyGroupSelector

end LearningDemo
