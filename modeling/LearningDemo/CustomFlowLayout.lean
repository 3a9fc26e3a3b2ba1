/-
The waterfall layout of `iOS/UI/DiaryNameTest/CustomFlowLayout.m`, as the
code computes it, with exact rationals for `CGFloat`. The collection view is
asked for its width (`nn_width`), its height (`nn_height`) and its number of
items.
-/
import LearningDemo.UIKit
import LearningDemo.Lib.Cells

namespace LearningDemo

open Imperative

def layoutColumnCount : Nat := 3
def layoutColumnMagin : ℚ := 10
def layoutRowMagin : ℚ := 10

/-- A `UICollectionViewLayoutAttributes`: its index path's item and its frame. -/
structure Attributes where
  item : Nat
  frame : CGRect
  deriving DecidableEq, Repr

structure CustomFlowLayout where
  layoutArrs : List Attributes
  columnArray : List ℚ
  deriving DecidableEq, Repr

namespace CustomFlowLayout

/-- Both arrays are made empty at their first use. -/
def fresh : CustomFlowLayout := { layoutArrs := [], columnArray := [] }

/-- `_heightOfIndexPath:`. -/
def heightOfIndexPath (item : Nat) : ℚ := 50 + item * 10

/-- The columns from `i` on, until one is lower than `minColumnHeight`: it is
taken, and no later one is looked at. -/
def lookForLower (columnArray : List ℚ) (minColumnHeight : ℚ) : Nat → Nat → C (Nat × ℚ)
  | 0, _ => pure (0, minColumnHeight)
  | count + 1, i => do
    let columnHeight ← load columnArray i
    if columnHeight < minColumnHeight then pure (i, columnHeight)
    else lookForLower columnArray minColumnHeight count (i + 1)

/-- `itemW`, from the collection view's width. -/
def itemW (nn_width : ℚ) : ℚ :=
  (nn_width - layoutColumnMagin * (layoutColumnCount - 1)) / layoutColumnCount

/-- `layoutAttributesForItemAtIndexPath:`, with the column it made longer. -/
def layoutAttributesForItemAtIndexPath (nn_width : ℚ) (layout : CustomFlowLayout) (item : Nat) :
    C (Attributes × CustomFlowLayout) := do
  let itemH := heightOfIndexPath item
  let (destColumn, minColumnHeight) ←
    lookForLower layout.columnArray (← load layout.columnArray 0) layoutColumnCount 0
  let itemX := destColumn * (itemW nn_width + layoutColumnMagin)
  let itemY := if minColumnHeight ≠ layoutRowMagin then minColumnHeight + layoutRowMagin else minColumnHeight
  let frame : CGRect := { x := itemX, y := itemY, width := itemW nn_width, height := itemH }
  let columnArray ← store layout.columnArray destColumn frame.getMaxY
  pure ({ item, frame }, { layout with columnArray })

/-- One turn of the loop of `prepareLayout`. -/
def addItem (nn_width : ℚ) (layout : CustomFlowLayout) (i : Nat) : C CustomFlowLayout := do
  let (attrs, layout) ← layoutAttributesForItemAtIndexPath nn_width layout i
  pure { layout with layoutArrs := layout.layoutArrs ++ [attrs] }

/-- `prepareLayout`, for `count` items. Only `layoutArrs` is emptied. -/
def prepareLayout (nn_width : ℚ) (count : Nat) (layout : CustomFlowLayout) : C CustomFlowLayout :=
  (List.range count).foldlM (addItem nn_width)
    { layoutArrs := [], columnArray := layout.columnArray ++ List.replicate layoutColumnCount 0 }

/-- One `prepareLayout` after another, each with the width and the count it finds. -/
def prepareAll (calls : List (ℚ × Nat)) (layout : CustomFlowLayout) : C CustomFlowLayout :=
  calls.foldlM (fun layout call => prepareLayout call.1 call.2 layout) layout

/-- `collectionViewContentSize`: two screens, whatever the items. -/
def collectionViewContentSize (nn_height : ℚ) : CGSize := { width := 0, height := nn_height * 2 }

/-- `layoutAttributesForElementsInRect:`, whatever the rectangle. -/
def layoutAttributesForElementsInRect (layout : CustomFlowLayout) (_rect : CGRect) : List Attributes :=
  layout.layoutArrs

end CustomFlowLayout

end LearningDemo
