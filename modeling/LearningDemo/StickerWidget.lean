/-
The sticker of `iOS/UI/pan`: where it may be dragged
(`WBLPerformerStickerWidget.m`), what a pan does to it
(`WBLEditableImageStickerWidget.m`), and the callbacks the screen installs
(`PanTestViewController.m`), with exact rationals for `CGFloat`.
-/
import LearningDemo.UIKit

namespace LearningDemo

/-- The areas of `WBLStickerEditAreaLayoutProtocol`. -/
structure EditArea where
  dragRect : CGRect
  deleteRect : CGRect
  deleteSureRect : CGRect
  dragAndDeleteRect : CGRect
  deriving DecidableEq, Repr

/-! ## The container -/

namespace WBLPerformerStickerWidget

def deleteViewVheight : ℚ := 113
def deleteViewHheight : ℚ := 70
def bottomViewVheight : ℚ := 271
def bottomViewHHeight : ℚ := 43
def leftViewHWidth : ℚ := 290

/-- `kRealWidth`, the shorter side of the screen. -/
def realWidth (screen : CGSize) : ℚ := if screen.width > screen.height then screen.height else screen.width

/-- `kRealHeight`, the longer side. -/
def realHeight (screen : CGSize) : ℚ := if screen.width < screen.height then screen.height else screen.width

/-- `highlightedFrame` of the delete view. -/
def highlightedFrame : CGRect := .zero

/-- `updateRectsForOrientaionChanged:`. -/
def updateRectsForOrientaionChanged (screen : CGSize) (isFullScreen : Bool) : EditArea :=
  let deleteSureRect := highlightedFrame
  let area : EditArea :=
    if !isFullScreen then
      let deleteRect : CGRect := { x := 0, y := 0, width := realWidth screen, height := deleteViewVheight }
      { deleteRect, deleteSureRect
        dragRect :=
          { x := 0, y := deleteRect.getMaxY, width := realWidth screen
            height := realHeight screen - (bottomViewVheight + 0 + deleteRect.getMaxY) }
        dragAndDeleteRect :=
          { x := 0, y := 0, width := realWidth screen, height := realHeight screen - (bottomViewVheight + 0) } }
    else
      let deleteRect : CGRect := { x := 0, y := 0, width := realHeight screen, height := deleteViewHheight }
      { deleteRect, deleteSureRect
        dragRect :=
          { x := leftViewHWidth, y := deleteRect.getMaxY, width := realHeight screen - leftViewHWidth
            height := realWidth screen - (bottomViewHHeight + deleteRect.getMaxY) }
        dragAndDeleteRect :=
          { x := leftViewHWidth, y := 0, width := realHeight screen - leftViewHWidth
            height := realWidth screen - bottomViewHHeight } }
  { area with
    deleteSureRect :=
      { x := (area.deleteRect.width - deleteSureRect.width) / 2
        y := (area.deleteRect.height - deleteSureRect.height) / 2
        width := deleteSureRect.width, height := deleteSureRect.height } }

end WBLPerformerStickerWidget

/-! ## A pan -/

inductive UIGestureRecognizerState where
  | possible
  | began
  | changed
  | ended
  | cancelled
  | failed
  deriving DecidableEq, Repr

/-- A pan recognizer when its action is sent, with the translation in the sticker's superview. -/
structure UIPanGestureRecognizer where
  state : UIGestureRecognizerState
  translation : CGPoint
  deriving DecidableEq, Repr

/-- A callback block called, with its argument. -/
inductive Callback where
  | panStart (point : CGPoint)
  | panFinished (point : CGPoint)
  | panShouldHighlightDelete (point : CGPoint)
  | panShouldResetHighlightDelete (point : CGPoint)
  | panShouldDelete (point : CGPoint)
  deriving DecidableEq, Repr

/-- Which of the blocks are set. -/
structure PanCallbacks where
  panStartCallback : Bool
  panFinishedCallback : Bool
  panShouldHighlightDeleteCallback : Bool
  panShouldResetHighlightDeleteCallback : Bool
  panShouldDeleteCallback : Bool
  deriving DecidableEq, Repr

def PanCallbacks.all : PanCallbacks where
  panStartCallback := true
  panFinishedCallback := true
  panShouldHighlightDeleteCallback := true
  panShouldResetHighlightDeleteCallback := true
  panShouldDeleteCallback := true

structure WBLEditableImageStickerWidget where
  center : CGPoint
  area : EditArea
  callbacks : PanCallbacks
  deriving DecidableEq, Repr

namespace WBLEditableImageStickerWidget

/-- What a pan leaves: the sticker, the recognizer, and the blocks called. -/
structure Panned where
  widget : WBLEditableImageStickerWidget
  sender : UIPanGestureRecognizer
  calls : List Callback
  deriving DecidableEq, Repr

/-- `if (block) block(point)`. -/
def call (isSet : Bool) (callback : Callback) : List Callback := if isSet then [callback] else []

/-- Where the pan takes the centre. -/
def viewCenter (widget : WBLEditableImageStickerWidget) (sender : UIPanGestureRecognizer) : CGPoint :=
  { x := widget.center.x + sender.translation.x, y := widget.center.y + sender.translation.y }

/-- The translation is used up: `setTranslation:` with 0. -/
def reset (sender : UIPanGestureRecognizer) : UIPanGestureRecognizer :=
  { sender with translation := { x := 0, y := 0 } }

/-- `shouldHeightLight`, while the pan goes on. -/
def shouldHeightLight (area : EditArea) (viewCenter : CGPoint) : Bool :=
  decide (viewCenter.y ≥ area.deleteRect.getMinY ∧ viewCenter.y ≤ area.deleteRect.getMaxY) &&
    area.deleteSureRect.containsPoint viewCenter

/-- A pan that goes on: the state is not `ended`. -/
def panMoving (widget : WBLEditableImageStickerWidget) (sender : UIPanGestureRecognizer) (viewCenter : CGPoint) :
    Panned :=
  let area := widget.area
  let started :=
    if sender.state = .began then call widget.callbacks.panStartCallback (.panStart sender.translation) else []
  if viewCenter.x < area.dragAndDeleteRect.getMinX ∨ viewCenter.x > area.dragAndDeleteRect.getMaxX ∨
      viewCenter.y > area.dragAndDeleteRect.getMaxY ∨ viewCenter.y < area.dragAndDeleteRect.getMinY then
    { widget, sender := reset sender, calls := started }
  else
    let called :=
      if shouldHeightLight area viewCenter then
        call widget.callbacks.panShouldHighlightDeleteCallback (.panShouldHighlightDelete sender.translation)
      else
        call widget.callbacks.panShouldResetHighlightDeleteCallback
          (.panShouldResetHighlightDelete sender.translation)
    { widget := { widget with center := viewCenter }, sender := reset sender, calls := started ++ called }

/-- The end of a pan. Of the four clamps only the upper one is in use. -/
def panEnded (widget : WBLEditableImageStickerWidget) (sender : UIPanGestureRecognizer) (viewCenter : CGPoint) :
    Panned :=
  let area := widget.area
  if (viewCenter.y > area.deleteRect.getMinY ∧ viewCenter.y < area.deleteRect.getMaxY) ∧
      area.deleteSureRect.containsPoint viewCenter ∧ widget.callbacks.panShouldDeleteCallback then
    { widget, sender := reset sender, calls := [.panShouldDelete sender.translation] }
  else
    let viewCenter :=
      if viewCenter.y - area.deleteRect.getMaxY ≤ 0 then { viewCenter with y := area.deleteRect.getMaxY }
      else viewCenter
    { widget := { widget with center := viewCenter }, sender := reset sender
      calls := call widget.callbacks.panFinishedCallback (.panFinished viewCenter) }

/-- `handlePanAction:`. -/
def handlePanAction (widget : WBLEditableImageStickerWidget) (sender : UIPanGestureRecognizer) : Panned :=
  let viewCenter := widget.viewCenter sender
  if sender.state ≠ .ended then widget.panMoving sender viewCenter else widget.panEnded sender viewCenter

end WBLEditableImageStickerWidget

/-! ## The screen -/

structure PanTestViewController where
  stickerView : WBLEditableImageStickerWidget
  /-- `stickerContainerView.deleteView.hidden`. -/
  deleteViewHidden : Bool
  deriving DecidableEq, Repr

namespace PanTestViewController

/-- `viewDidLoad`, with `updateStickerView`. -/
def viewDidLoad (screen : CGSize) : PanTestViewController where
  stickerView :=
    { center := { x := 100, y := 100 }
      area := WBLPerformerStickerWidget.updateRectsForOrientaionChanged screen false
      callbacks := .all }
  deleteViewHidden := true

/-- What the installed blocks do to the delete view; to highlight it and to
reset that are methods without a body. -/
def perform (deleteViewHidden : Bool) : Callback → Bool
  | .panStart _ => false
  | .panShouldHighlightDelete _ => deleteViewHidden
  | .panShouldResetHighlightDelete _ => deleteViewHidden
  | .panShouldDelete _ => true
  | .panFinished _ => true

/-- One action of the recognizer. -/
def pan (controller : PanTestViewController) (sender : UIPanGestureRecognizer) : PanTestViewController :=
  let panned := controller.stickerView.handlePanAction sender
  { stickerView := panned.widget, deleteViewHidden := panned.calls.foldl perform controller.deleteViewHidden }

end PanTestViewController

end LearningDemo
