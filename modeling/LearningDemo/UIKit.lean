/-
The values of UIKit the screens compute with: points, sizes, rectangles,
colours and fonts, with exact rationals for `CGFloat`.
-/
import Mathlib.Data.Rat.Defs

namespace LearningDemo

structure CGPoint where
  x : ℚ
  y : ℚ
  deriving DecidableEq, Repr

structure CGRect where
  x : ℚ
  y : ℚ
  width : ℚ
  height : ℚ
  deriving DecidableEq, Repr

/-- `CGRectGetMaxY`: the lower edge, also of a rectangle with a negative height. -/
def CGRect.getMaxY (r : CGRect) : ℚ := if r.height < 0 then r.y else r.y + r.height

namespace CGRect

/-- `CGRectZero`. -/
def zero : CGRect := { x := 0, y := 0, width := 0, height := 0 }

/-- `CGRectGetMinX`. -/
def getMinX (r : CGRect) : ℚ := if r.width < 0 then r.x + r.width else r.x

/-- `CGRectGetMaxX`. -/
def getMaxX (r : CGRect) : ℚ := if r.width < 0 then r.x else r.x + r.width

/-- `CGRectGetMinY`. -/
def getMinY (r : CGRect) : ℚ := if r.height < 0 then r.y + r.height else r.y

/-- `CGRectContainsPoint`, with the edges at the minimum but not those at the maximum. -/
def containsPoint (r : CGRect) (p : CGPoint) : Bool :=
  decide (r.getMinX ≤ p.x ∧ p.x < r.getMaxX ∧ r.getMinY ≤ p.y ∧ p.y < r.getMaxY)

end CGRect

structure CGSize where
  width : ℚ
  height : ℚ
  deriving DecidableEq, Repr

/-- A `UIColor`, by what `getRed:green:blue:alpha:` returns. -/
structure UIColor where
  red : ℚ
  green : ℚ
  blue : ℚ
  alpha : ℚ
  deriving DecidableEq, Repr

namespace UIColor

/-- `colorWithWhite:alpha:`. -/
def gray (white alpha : ℚ) : UIColor := { red := white, green := white, blue := white, alpha }

def clearColor : UIColor := gray 0 0
def blackColor : UIColor := gray 0 1
def darkTextColor : UIColor := gray 0 1
def whiteColor : UIColor := gray 1 1
def redColor : UIColor := { red := 1, green := 0, blue := 0, alpha := 1 }
def orangeColor : UIColor := { red := 1, green := 1 / 2, blue := 0, alpha := 1 }

end UIColor

/-- A `UIFont` of the system. -/
structure UIFont where
  pointSize : ℚ
  deriving DecidableEq, Repr

/-- `systemFontOfSize:`. -/
def systemFontOfSize (pointSize : ℚ) : UIFont := { pointSize }

end LearningDemo
