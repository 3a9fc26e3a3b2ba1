/-
Where a pan leaves the sticker, and what it calls on the way.

A pan that goes on is refused outside the area (`panMoving_refused`), so
the centre stays inside; its end is held back at the top only. The two hit
tests for deleting differ on one line, the top edge of the delete zone. A
pan that is cancelled goes through the branch of those that go on, and no
block hides the delete zone there.
-/
import LearningDemo.StickerWidget
import LearningDemo.Lib.Lts
import Mathlib.Algebra.Order.Ring.Rat
import Mathlib.Data.List.Induction
import Mathlib.Tactic.Linarith
import Mathlib.Tactic.NormNum

namespace LearningDemo

open Lts

variable {r s : CGRect} {p : CGPoint}

/-! ## Points and rectangles -/

namespace CGRect

/-- The point is in the rectangle or on one of its edges. -/
structure Encloses (r : CGRect) (p : CGPoint) : Prop where
  left : r.getMinX ≤ p.x
  right : p.x ≤ r.getMaxX
  top : r.getMinY ≤ p.y
  bottom : p.y ≤ r.getMaxY

/-- The rectangle is inside the other one. -/
structure Within (r s : CGRect) : Prop where
  left : s.getMinX ≤ r.getMinX
  right : r.getMaxX ≤ s.getMaxX
  top : s.getMinY ≤ r.getMinY
  bottom : r.getMaxY ≤ s.getMaxY

theorem Encloses.within (h : r.Encloses p) (hrs : r.Within s) : s.Encloses p :=
  ⟨hrs.left.trans h.left, h.right.trans hrs.right, hrs.top.trans h.top, h.bottom.trans hrs.bottom⟩

theorem containsPoint_iff : r.containsPoint p = true ↔
    r.getMinX ≤ p.x ∧ p.x < r.getMaxX ∧ r.getMinY ≤ p.y ∧ p.y < r.getMaxY := decide_eq_true_iff

theorem Encloses.of_contains (h : r.containsPoint p = true) : r.Encloses p := by
  obtain ⟨hl, hr, ht, hb⟩ := containsPoint_iff.mp h
  exact ⟨hl, hr.le, ht, hb.le⟩

theorem outside_iff : (p.x < r.getMinX ∨ p.x > r.getMaxX ∨ p.y > r.getMaxY ∨ p.y < r.getMinY) ↔
    ¬ r.Encloses p := by
  refine ⟨?_, fun hout => ?_⟩
  · rintro (h | h | h | h) hin
    · exact absurd hin.left (not_le.mpr h)
    · exact absurd hin.right (not_le.mpr h)
    · exact absurd hin.bottom (not_le.mpr h)
    · exact absurd hin.top (not_le.mpr h)
  · by_contra hnone
    simp only [gt_iff_lt, not_or, not_lt] at hnone
    obtain ⟨hl, hr, hb, ht⟩ := hnone
    exact hout ⟨hl, hr, ht, hb⟩

theorem not_contains_of_width (h : r.width = 0) : ¬ r.containsPoint p = true := by
  intro hin
  obtain ⟨hl, hr, -⟩ := containsPoint_iff.mp hin
  simp only [getMinX, getMaxX, h, lt_irrefl, if_false, add_zero] at hl hr
  exact absurd hl (not_le.mpr hr)

end CGRect

namespace WBLEditableImageStickerWidget

variable {widget : WBLEditableImageStickerWidget} {sender : UIPanGestureRecognizer}

/-! ## One action -/

theorem handlePanAction_moving (hs : sender.state ≠ .ended) :
    widget.handlePanAction sender = widget.panMoving sender (widget.viewCenter sender) := if_pos hs

theorem handlePanAction_ended (hs : sender.state = .ended) :
    widget.handlePanAction sender = widget.panEnded sender (widget.viewCenter sender) := if_neg (not_not.mpr hs)

theorem handlePanAction_frame (widget : WBLEditableImageStickerWidget) (sender : UIPanGestureRecognizer) :
    (widget.handlePanAction sender).widget.area = widget.area ∧
      (widget.handlePanAction sender).widget.callbacks = widget.callbacks ∧
      (widget.handlePanAction sender).sender = reset sender := by
  by_cases hs : sender.state = .ended
  · rw [handlePanAction_ended hs, panEnded]
    dsimp only
    split <;> exact ⟨rfl, rfl, rfl⟩
  · rw [handlePanAction_moving hs, panMoving]
    dsimp only
    split <;> exact ⟨rfl, rfl, rfl⟩

theorem panMoving_refused (hout : ¬ widget.area.dragAndDeleteRect.Encloses p) :
    widget.panMoving sender p =
      { widget, sender := reset sender
        calls :=
          if sender.state = .began then call widget.callbacks.panStartCallback (.panStart sender.translation)
          else [] } :=
  if_pos (CGRect.outside_iff.mpr hout)

theorem panMoving_taken (hin : widget.area.dragAndDeleteRect.Encloses p) :
    widget.panMoving sender p =
      { widget := { widget with center := p }, sender := reset sender
        calls :=
          (if sender.state = .began then call widget.callbacks.panStartCallback (.panStart sender.translation)
            else []) ++
          if shouldHeightLight widget.area p then
            call widget.callbacks.panShouldHighlightDeleteCallback (.panShouldHighlightDelete sender.translation)
          else
            call widget.callbacks.panShouldResetHighlightDeleteCallback
              (.panShouldResetHighlightDelete sender.translation) } :=
  if_neg (mt CGRect.outside_iff.mp (not_not.mpr hin))

/-- Where nothing is deleted, the end of a pan takes the centre down to the delete zone's lower edge. -/
theorem panEnded_center (hsure : ¬ widget.area.deleteSureRect.containsPoint p = true) :
    (widget.panEnded sender p).widget.center =
      if p.y - widget.area.deleteRect.getMaxY ≤ 0 then { p with y := widget.area.deleteRect.getMaxY } else p := by
  rw [panEnded]
  dsimp only
  rw [if_neg fun h => hsure h.2.1]

/-! ## The area -/

open WBLPerformerStickerWidget

/-- The delete view's highlighted frame is empty, so no point is sure to delete. -/
theorem not_sure (screen : CGSize) (isFullScreen : Bool) (p : CGPoint) :
    ¬ (updateRectsForOrientaionChanged screen isFullScreen).deleteSureRect.containsPoint p = true :=
  CGRect.not_contains_of_width rfl

/-- The bottom edge of the delete zone is at a height of the drag area. -/
def BottomInside (area : EditArea) : Prop :=
  area.dragAndDeleteRect.getMinY ≤ area.deleteRect.getMaxY ∧
    area.deleteRect.getMaxY ≤ area.dragAndDeleteRect.getMaxY

def CenterInside (widget : WBLEditableImageStickerWidget) : Prop :=
  widget.area.dragAndDeleteRect.Encloses widget.center

/-- The end of a pan is not beyond the left, the right or the lower edge. -/
def EndsInside (widget : WBLEditableImageStickerWidget) (sender : UIPanGestureRecognizer) : Prop :=
  sender.state = .ended →
    widget.area.dragAndDeleteRect.getMinX ≤ (widget.viewCenter sender).x ∧
    (widget.viewCenter sender).x ≤ widget.area.dragAndDeleteRect.getMaxX ∧
    (widget.viewCenter sender).y ≤ widget.area.dragAndDeleteRect.getMaxY

/-- One action, as a step of the sticker. -/
def panStep (widget : WBLEditableImageStickerWidget) (sender : UIPanGestureRecognizer) :
    Option WBLEditableImageStickerWidget := some (widget.handlePanAction sender).widget

theorem run_panStep (widget : WBLEditableImageStickerWidget) (senders : List UIPanGestureRecognizer) :
    ∃ w, run panStep widget senders = some w := by
  induction senders generalizing widget with
  | nil => exact ⟨widget, rfl⟩
  | cons sender senders ih => exact ih _

theorem moving_inside (hs : sender.state ≠ .ended) (hin : CenterInside widget) :
    CenterInside (widget.handlePanAction sender).widget := by
  unfold CenterInside
  rw [(handlePanAction_frame widget sender).1, handlePanAction_moving hs]
  by_cases hq : widget.area.dragAndDeleteRect.Encloses (widget.viewCenter sender)
  · rwa [panMoving_taken hq]
  · rwa [panMoving_refused hq]

theorem ended_inside_iff (hs : sender.state = .ended) (hbottom : BottomInside widget.area)
    (hsure : ¬ widget.area.deleteSureRect.containsPoint (widget.viewCenter sender) = true) :
    CenterInside (widget.handlePanAction sender).widget ↔ EndsInside widget sender := by
  obtain ⟨htop, hlow⟩ := hbottom
  unfold CenterInside
  rw [(handlePanAction_frame widget sender).1, handlePanAction_ended hs, panEnded_center hsure]
  refine ⟨fun h _ => ?_, fun h => ?_⟩
  · split at h
    · exact ⟨h.left, h.right, by linarith⟩
    · exact ⟨h.left, h.right, h.bottom⟩
  · obtain ⟨hl, hr, hb⟩ := h hs
    split
    · exact ⟨hl, hr, htop, hlow⟩
    · exact ⟨hl, hr, by linarith, hb⟩

/-- **A sticker leaves its area only at the end of a pan.** In the area of
either orientation, on any screen, the centre stays inside through a run of
actions exactly when every pan ends inside the left, the right and the lower
edge. -/
theorem center_inside_iff (screen : CGSize) (isFullScreen : Bool) (senders : List UIPanGestureRecognizer)
    (harea : widget.area = updateRectsForOrientaionChanged screen isFullScreen)
    (hbottom : BottomInside widget.area) (hstart : CenterInside widget) :
    Always panStep CenterInside widget senders ↔ Meets panStep EndsInside widget senders := by
  obtain ⟨w, hrun⟩ := run_panStep widget senders
  refine always_iff_meets (I := fun w => w.area = widget.area) (fun w sender w' hw hstep => ?_)
    (fun w sender w' hw hin hstep => ?_) rfl hstart hrun
  · obtain rfl := Option.some.inj hstep
    exact (handlePanAction_frame w sender).1.trans hw
  · obtain rfl := Option.some.inj hstep
    by_cases hs : sender.state = .ended
    · exact ended_inside_iff hs (hw ▸ hbottom) (hw.trans harea ▸ not_sure screen isFullScreen _)
    · exact iff_of_true (moving_inside hs hin) fun he => absurd he hs

/-- An upright phone, and a sticker below the delete zone. -/
def phoneSticker : WBLEditableImageStickerWidget where
  center := { x := 100, y := 200 }
  area := updateRectsForOrientaionChanged ⟨375, 667⟩ false
  callbacks := .all

theorem phoneSticker_bottom : BottomInside phoneSticker.area := ⟨by decide +kernel, by decide +kernel⟩

theorem phoneSticker_inside : CenterInside phoneSticker where
  left := by decide +kernel
  right := by decide +kernel
  top := by decide +kernel
  bottom := by decide +kernel

/-- A pan to the right and back up. -/
theorem center_inside_phone :
    Always panStep CenterInside phoneSticker [⟨.began, ⟨0, 0⟩⟩, ⟨.changed, ⟨60, 0⟩⟩, ⟨.ended, ⟨0, -20⟩⟩] ↔
      Meets panStep EndsInside phoneSticker [⟨.began, ⟨0, 0⟩⟩, ⟨.changed, ⟨60, 0⟩⟩, ⟨.ended, ⟨0, -20⟩⟩] :=
  center_inside_iff ⟨375, 667⟩ false _ rfl phoneSticker_bottom phoneSticker_inside

/-- A last movement of 300 downwards: the area ends at 396. -/
theorem center_leaves : ¬ ∀ (screen : CGSize) (isFullScreen : Bool) (widget : WBLEditableImageStickerWidget)
    (senders : List UIPanGestureRecognizer), widget.area = updateRectsForOrientaionChanged screen isFullScreen →
    BottomInside widget.area → CenterInside widget → Always panStep CenterInside widget senders := by
  intro h
  have hall := h ⟨375, 667⟩ false phoneSticker [⟨.ended, ⟨0, 300⟩⟩] rfl phoneSticker_bottom phoneSticker_inside
  have hlast := hall [⟨.ended, ⟨0, 300⟩⟩] [] _ rfl rfl
  have hends := (ended_inside_iff rfl phoneSticker_bottom (not_sure _ _ _)).mp hlast
  exact absurd (hends rfl).2.2 (by decide +kernel)

/-! ## Highlighting and deleting -/

/-- An action highlights the delete view. -/
def Highlights (widget : WBLEditableImageStickerWidget) (sender : UIPanGestureRecognizer) : Prop :=
  ∃ point, .panShouldHighlightDelete point ∈ (widget.handlePanAction sender).calls

/-- An action deletes the sticker. -/
def Deletes (widget : WBLEditableImageStickerWidget) (sender : UIPanGestureRecognizer) : Prop :=
  ∃ point, .panShouldDelete point ∈ (widget.handlePanAction sender).calls

theorem highlights_iff (hset : widget.callbacks = .all) (hs : sender.state ≠ .ended) : Highlights widget sender ↔
    widget.area.dragAndDeleteRect.Encloses (widget.viewCenter sender) ∧
      shouldHeightLight widget.area (widget.viewCenter sender) = true := by
  unfold Highlights
  rw [handlePanAction_moving hs]
  by_cases hin : widget.area.dragAndDeleteRect.Encloses (widget.viewCenter sender)
  · rw [panMoving_taken hin, hset]
    split <;> by_cases hlight : shouldHeightLight widget.area (widget.viewCenter sender) = true <;>
      simp [hin, hlight, call, PanCallbacks.all]
  · rw [panMoving_refused hin]
    split <;> simp [hin, call]

theorem deletes_iff (hset : widget.callbacks = .all) (hs : sender.state = .ended) : Deletes widget sender ↔
    (widget.area.deleteRect.getMinY < (widget.viewCenter sender).y ∧
      (widget.viewCenter sender).y < widget.area.deleteRect.getMaxY) ∧
    widget.area.deleteSureRect.containsPoint (widget.viewCenter sender) = true := by
  unfold Deletes
  rw [handlePanAction_ended hs, panEnded, hset]
  dsimp only
  split
  · next h => simpa using ⟨h.1, h.2.1⟩
  · next h =>
    refine iff_of_false (by simp [call]) fun hdel => h ⟨hdel.1, hdel.2, rfl⟩

/-- **What is highlighted is what gets deleted, but for the upper edge.** For
all rectangles inside one another, and actions that take the centre to one
point `q`: one that goes on highlights exactly when one that ends deletes,
unless `q` is sure to delete and on the upper edge of the delete zone. -/
theorem highlights_iff_deletes_iff {area : EditArea} {center center' q : CGPoint}
    {moving ended : UIPanGestureRecognizer} (hsure : area.deleteSureRect.Within area.deleteRect)
    (hzone : area.deleteRect.Within area.dragAndDeleteRect) (hmoving : moving.state ≠ .ended)
    (hended : ended.state = .ended) (hq : viewCenter ⟨center, area, .all⟩ moving = q)
    (hq' : viewCenter ⟨center', area, .all⟩ ended = q) :
    (Highlights ⟨center, area, .all⟩ moving ↔ Deletes ⟨center', area, .all⟩ ended) ↔
      ¬ (area.deleteSureRect.containsPoint q = true ∧ q.y = area.deleteRect.getMinY) := by
  rw [highlights_iff rfl hmoving, deletes_iff rfl hended, hq, hq', shouldHeightLight, Bool.and_eq_true,
    decide_eq_true_iff]
  by_cases hin : area.deleteSureRect.containsPoint q = true
  · have hdelete := (CGRect.Encloses.of_contains hin).within hsure
    have hdrag := hdelete.within hzone
    have hbelow : q.y < area.deleteRect.getMaxY := (CGRect.containsPoint_iff.mp hin).2.2.2.trans_le hsure.bottom
    simp only [hin, hdrag, hdelete.top, hdelete.bottom, hbelow, true_and, and_true, true_iff, and_self]
    exact ⟨fun hlt heq => absurd heq hlt.ne', fun hne => lt_of_le_of_ne hdelete.top (Ne.symm hne)⟩
  · simp [hin]

/-- A delete zone 113 high, with a place sure to delete in it from `top` on. -/
def zoneArea (top : ℚ) : EditArea where
  dragRect := { x := 0, y := 113, width := 375, height := 283 }
  deleteRect := { x := 0, y := 0, width := 375, height := 113 }
  deleteSureRect := { x := 150, y := top, width := 75, height := 75 }
  dragAndDeleteRect := { x := 0, y := 0, width := 375, height := 396 }

theorem zone_sure_within {top : ℚ} (h0 : 0 ≤ top) (h : top ≤ 38) :
    (zoneArea top).deleteSureRect.Within (zoneArea top).deleteRect := by
  refine ⟨?_, ?_, ?_, ?_⟩ <;>
    simp only [zoneArea, CGRect.getMinX, CGRect.getMaxX, CGRect.getMinY, CGRect.getMaxY] <;> norm_num <;> linarith

theorem zone_within (top : ℚ) : (zoneArea top).deleteRect.Within (zoneArea top).dragAndDeleteRect := by
  refine ⟨?_, ?_, ?_, ?_⟩ <;>
    norm_num [zoneArea, CGRect.getMinX, CGRect.getMaxX, CGRect.getMinY, CGRect.getMaxY]

/-- At the middle of the place. -/
theorem highlights_deletes_zone :
    (Highlights ⟨⟨180, 90⟩, zoneArea 19, .all⟩ ⟨.changed, ⟨0, -40⟩⟩ ↔
        Deletes ⟨⟨180, 50⟩, zoneArea 19, .all⟩ ⟨.ended, ⟨0, 0⟩⟩) ↔
      ¬ ((zoneArea 19).deleteSureRect.containsPoint ⟨180, 50⟩ = true ∧
        (⟨180, 50⟩ : CGPoint).y = (zoneArea 19).deleteRect.getMinY) :=
  highlights_iff_deletes_iff (zone_sure_within (by norm_num) (by norm_num)) (zone_within 19) (by decide) rfl
    (by decide +kernel) (by decide +kernel)

/-- On the upper edge, where the place begins. -/
theorem highlights_without_deleting : ¬ ∀ (area : EditArea) (center center' q : CGPoint)
    (moving ended : UIPanGestureRecognizer), area.deleteSureRect.Within area.deleteRect →
    area.deleteRect.Within area.dragAndDeleteRect → moving.state ≠ .ended → ended.state = .ended →
    viewCenter ⟨center, area, .all⟩ moving = q → viewCenter ⟨center', area, .all⟩ ended = q →
    (Highlights ⟨center, area, .all⟩ moving ↔ Deletes ⟨center', area, .all⟩ ended) := by
  intro h
  have hlight : Highlights ⟨⟨180, 40⟩, zoneArea 0, .all⟩ ⟨.changed, ⟨0, -40⟩⟩ := by
    refine (highlights_iff rfl (by decide)).mpr ⟨⟨?_, ?_, ?_, ?_⟩, ?_⟩ <;> decide +kernel
  have hdelete := (h _ _ ⟨180, 0⟩ ⟨180, 0⟩ _ ⟨.ended, ⟨0, 0⟩⟩ (zone_sure_within (by norm_num) (by norm_num))
    (zone_within 0) (by decide) rfl (by decide +kernel) (by decide +kernel)).mp hlight
  exact absurd ((deletes_iff rfl rfl).mp hdelete).1.1 (by decide +kernel)

end WBLEditableImageStickerWidget

/-! ## Gestures -/

namespace PanTestViewController

open WBLEditableImageStickerWidget

/-- How a recognizer can finish a pan that began. -/
inductive Finish where
  | ended
  | cancelled
  | failed
  deriving DecidableEq, Repr

def Finish.state : Finish → UIGestureRecognizerState
  | .ended => .ended
  | .cancelled => .cancelled
  | .failed => .failed

/-- A gesture, by the translations of its actions. -/
structure Gesture where
  began : CGPoint
  changed : List CGPoint
  last : CGPoint
  finish : Finish

/-- The actions the recognizer sends. -/
def Gesture.actions (gesture : Gesture) : List UIPanGestureRecognizer :=
  ⟨.began, gesture.began⟩ :: (gesture.changed.map (⟨.changed, ·⟩) ++ [⟨gesture.finish.state, gesture.last⟩])

/-- The screen after a gesture. -/
def play (controller : PanTestViewController) (gesture : Gesture) : PanTestViewController :=
  gesture.actions.foldl pan controller

variable {controller : PanTestViewController} {sender : UIPanGestureRecognizer} {gesture : Gesture}

theorem pan_callbacks (controller : PanTestViewController) (sender : UIPanGestureRecognizer) :
    (controller.pan sender).stickerView.callbacks = controller.stickerView.callbacks :=
  (handlePanAction_frame controller.stickerView sender).2.1

theorem pan_moving_hidden (hset : controller.stickerView.callbacks = .all) (hs : sender.state ≠ .ended) :
    (controller.pan sender).deleteViewHidden =
      if sender.state = .began then false else controller.deleteViewHidden := by
  unfold pan
  dsimp only
  rw [handlePanAction_moving hs]
  by_cases hin : controller.stickerView.area.dragAndDeleteRect.Encloses (controller.stickerView.viewCenter sender)
  · rw [panMoving_taken hin, hset]
    dsimp only
    rw [List.foldl_append]
    split <;> split <;> rfl
  · rw [panMoving_refused hin, hset]
    split <;> rfl

theorem pan_began_hidden (hset : controller.stickerView.callbacks = .all) (translation : CGPoint) :
    (controller.pan ⟨.began, translation⟩).deleteViewHidden = false :=
  (pan_moving_hidden hset (show UIGestureRecognizerState.began ≠ .ended by decide)).trans (if_pos rfl)

theorem pan_kept_hidden {state : UIGestureRecognizerState} (hset : controller.stickerView.callbacks = .all)
    (hended : state ≠ .ended) (hbegan : state ≠ .began) (translation : CGPoint) :
    (controller.pan ⟨state, translation⟩).deleteViewHidden = controller.deleteViewHidden :=
  (pan_moving_hidden hset hended).trans (if_neg hbegan)

theorem pan_ended_hidden (hset : controller.stickerView.callbacks = .all) (hs : sender.state = .ended) :
    (controller.pan sender).deleteViewHidden = true := by
  unfold pan
  dsimp only
  rw [handlePanAction_ended hs, panEnded, hset]
  dsimp only
  split <;> rfl

theorem changed_hidden (translations : List CGPoint) (hset : controller.stickerView.callbacks = .all) :
    ((translations.map (⟨.changed, ·⟩)).foldl pan controller).deleteViewHidden = controller.deleteViewHidden ∧
      ((translations.map (⟨.changed, ·⟩)).foldl pan controller).stickerView.callbacks = .all := by
  induction translations generalizing controller with
  | nil => exact ⟨rfl, hset⟩
  | cons translation translations ih =>
    obtain ⟨hhidden, hcalls⟩ := ih ((pan_callbacks controller ⟨.changed, translation⟩).trans hset)
    rw [pan_kept_hidden hset (by decide) (by decide)] at hhidden
    exact ⟨hhidden, hcalls⟩

theorem play_callbacks (controller : PanTestViewController) (gesture : Gesture) :
    (controller.play gesture).stickerView.callbacks = controller.stickerView.callbacks := by
  unfold play
  generalize gesture.actions = actions
  induction actions generalizing controller with
  | nil => rfl
  | cons sender actions ih => exact (ih _).trans (pan_callbacks controller sender)

/-- After a gesture the delete zone is hidden where the gesture was not cut off. -/
theorem play_hidden (hset : controller.stickerView.callbacks = .all) :
    (controller.play gesture).deleteViewHidden = decide (gesture.finish = .ended) := by
  have hbegan : (controller.pan ⟨.began, gesture.began⟩).stickerView.callbacks = .all :=
    (pan_callbacks _ _).trans hset
  obtain ⟨hhidden, hcalls⟩ := changed_hidden gesture.changed hbegan
  rw [pan_began_hidden hset] at hhidden
  unfold play Gesture.actions
  rw [List.foldl_cons, List.foldl_append, List.foldl_cons, List.foldl_nil]
  cases hfinish : gesture.finish with
  | ended => exact pan_ended_hidden hcalls rfl
  | cancelled => exact (pan_kept_hidden hcalls (by decide) (by decide) _).trans hhidden
  | failed => exact (pan_kept_hidden hcalls (by decide) (by decide) _).trans hhidden

/-- **The delete zone is hidden between gestures as long as none is cut
off.** Before, between and after the gestures of a sequence it is hidden,
wherever they take the sticker, exactly when the recognizer ends every one of
them, and neither cancels nor fails one. -/
theorem deleteView_hidden_iff (gestures : List Gesture) (hset : controller.stickerView.callbacks = .all)
    (hhidden : controller.deleteViewHidden = true) :
    (∀ past rest, gestures = past ++ rest → (past.foldl play controller).deleteViewHidden = true) ↔
      ∀ gesture ∈ gestures, gesture.finish = .ended := by
  have hall : ∀ past : List Gesture, (past.foldl play controller).stickerView.callbacks = .all := fun past => by
    induction past using List.reverseRecOn with
    | nil => exact hset
    | append_singleton past gesture ih =>
      rw [List.foldl_append]
      exact (play_callbacks _ gesture).trans ih
  have hplay : ∀ (past : List Gesture) (gesture : Gesture),
      ((past ++ [gesture]).foldl play controller).deleteViewHidden = true ↔ gesture.finish = .ended := by
    intro past gesture
    rw [List.foldl_append]
    exact (Bool.eq_iff_iff.mp (play_hidden (hall past))).trans decide_eq_true_iff
  refine ⟨fun h gesture hmem => ?_, fun h past rest hsplit => ?_⟩
  · obtain ⟨past, rest, rfl⟩ := List.append_of_mem hmem
    exact (hplay past gesture).mp (h _ rest (by simp))
  · rcases List.eq_nil_or_concat past with rfl | ⟨past, gesture, rfl⟩
    · exact hhidden
    · rw [List.concat_eq_append] at hsplit ⊢
      exact (hplay past gesture).mpr (h gesture (by simp [hsplit]))

theorem deleteView_hidden_phone :
    (∀ past rest, [⟨⟨0, 0⟩, [⟨0, -40⟩], ⟨0, 0⟩, .ended⟩] = past ++ rest →
        (past.foldl play (viewDidLoad ⟨375, 667⟩)).deleteViewHidden = true) ↔
      ∀ gesture ∈ [(⟨⟨0, 0⟩, [⟨0, -40⟩], ⟨0, 0⟩, .ended⟩ : Gesture)], gesture.finish = .ended :=
  deleteView_hidden_iff _ rfl rfl

/-- A gesture that is cancelled, by a call that comes in for instance. -/
theorem deleteView_stays : ¬ ∀ (screen : CGSize) (gesture : Gesture),
    ((viewDidLoad screen).play gesture).deleteViewHidden = true := by
  intro h
  have hhidden := h ⟨375, 667⟩ ⟨⟨0, 0⟩, [⟨0, -40⟩], ⟨0, 0⟩, .cancelled⟩
  rw [play_hidden rfl] at hhidden
  exact absurd (of_decide_eq_true hhidden) (by decide)

end PanTestViewController

end LearningDemo
