/-
`iOS/UI/YXLiveRoomView.m`: the hit test of a tree of views, any of which may
be a `YXLiveRoomView`. A hit is named by the indexes that lead from the view
that was asked down to the view that was hit. Asking a view changes nothing,
so what its subviews answer stands in a list.
-/
import LearningDemo.UIKit
import Mathlib.Algebra.Order.Field.Rat

namespace LearningDemo

/-- What a hit test reads of a view itself. -/
structure UIViewState where
  hidden : Bool
  alpha : ℚ
  userInteractionEnabled : Bool
  /-- `pointInside:withEvent:`, of a point in the view's own coordinates. -/
  pointInside : CGPoint → Bool
  /-- `[superview convertPoint:point toView:view]`. -/
  convertPoint : CGPoint → CGPoint

/-- The class of a view, of a `YXLiveRoomView` with its property. -/
inductive ViewClass where
  | UIView
  | YXLiveRoomView (penetrate : Bool)
  deriving DecidableEq, Repr

/-- A view with its subviews, the last one in front. -/
inductive UIView where
  | mk (viewClass : ViewClass) (state : UIViewState) (subviews : List UIView)

namespace UIView

/-- A view below a view, by the index in `subviews` at every level; `[]` is the view itself. -/
abbrev Path := List Nat

def viewClass : UIView → ViewClass
  | .mk viewClass _ _ => viewClass

def state : UIView → UIViewState
  | .mk _ state _ => state

def subviews : UIView → List UIView
  | .mk _ _ subviews => subviews

end UIView

/-- A view that is no candidate, as documented: hidden, transparent or disabled. -/
def UIViewState.ignored (state : UIViewState) : Bool :=
  state.hidden || decide (state.alpha < 1 / 100) || !state.userInteractionEnabled

open UIView (Path)

/-- The last answer that is not `nil`. -/
def lastAnswer (answers : List (Option Path)) : Option Path := (answers.filterMap id).getLast?

/-- `hitTest:withEvent:` of `UIView` as documented, by what the subviews
answer: `nil` for a view that is ignored or does not contain the point, else
the last answer, else the view itself. -/
def UIView.superHitTest (state : UIViewState) (answers : List (Option Path)) (point : CGPoint) : Option Path :=
  if state.ignored || !state.pointInside point then none else some ((lastAnswer answers).getD [])

namespace YXLiveRoomView

/-- The loop of `hitTest:withEvent:`, at the index `i - 1`. -/
def respondLoop (answers : List (Option Path)) : Nat → Option Path → Option Path
  | 0, respondView => respondView
  | i + 1, _ =>
    let respondView := answers[i]?.join
    if respondView.isSome then respondView else respondLoop answers i respondView

/-- `hitTest:withEvent:` of a `YXLiveRoomView`, by what the subviews answer. -/
def hitTest (penetrate : Bool) (state : UIViewState) (answers : List (Option Path)) (point : CGPoint) :
    Option Path :=
  if penetrate then
    let respondView := none
    if answers.length > 0 then respondLoop answers answers.length respondView else respondView
  else UIView.superHitTest state answers point

end YXLiveRoomView

namespace UIView

mutual

/-- `hitTest:withEvent:`, as the class of the view has it. -/
def hitTest : UIView → CGPoint → Option Path
  | .mk .UIView state subviews, point => superHitTest state (answers 0 subviews point) point
  | .mk (.YXLiveRoomView penetrate) state subviews, point =>
    YXLiveRoomView.hitTest penetrate state (answers 0 subviews point) point

/-- What the subviews from the index `i` on answer, each at the point in its
own coordinates. -/
def answers (i : Nat) : List UIView → CGPoint → List (Option Path)
  | [], _ => []
  | view :: views, point =>
    (hitTest view (view.state.convertPoint point)).map (i :: ·) :: answers (i + 1) views point

end

end UIView

end LearningDemo
