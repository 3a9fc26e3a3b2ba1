/-
When a penetrating view keeps the rules of hit testing.

Its loop comes to the last answer of its subviews, as the default search
does (`respondLoop_eq`). It does not ask whether the view itself is hidden,
transparent or disabled, so it differs exactly when the view is, and a view
behind the penetrating ones would take the touch (`keepsRules_iff`).
-/
import LearningDemo.YXLiveRoomView

namespace LearningDemo

open UIView

variable {hits : List (Option Path)} {point : CGPoint} {path : Path} {v w : UIView}

/-! ## The loop -/

theorem lastAnswer_concat (hits : List (Option Path)) (hit : Option Path) :
    lastAnswer (hits ++ [hit]) = hit.or (lastAnswer hits) := by
  cases hit with
  | none => simp [lastAnswer]
  | some path => simp [lastAnswer]

theorem lastAnswer_mem (h : lastAnswer hits = some path) : some path ∈ hits := by
  have hmem := List.mem_of_getLast? h
  simpa using hmem

theorem lastAnswer_isSome : (lastAnswer hits).isSome = true ↔ ∃ hit ∈ hits, hit.isSome = true := by
  unfold lastAnswer
  rw [List.getLast?_isSome, Ne, List.filterMap_eq_nil_iff]
  simp [Option.isSome_iff_ne_none]

theorem respondLoop_eq {i : Nat} (hi : i ≤ hits.length) :
    YXLiveRoomView.respondLoop hits i none = lastAnswer (hits.take i) := by
  induction i with
  | zero => rfl
  | succ i ih =>
    have hlt : i < hits.length := hi
    have htake : hits.take (i + 1) = hits.take i ++ [hits[i]] := by simp
    rw [htake, lastAnswer_concat, ← ih (by omega)]
    simp only [YXLiveRoomView.respondLoop, List.getElem?_eq_getElem hlt, Option.join_some]
    cases hits[i] with
    | none => rfl
    | some path => rfl

theorem penetrating_hitTest (state : UIViewState) (hits : List (Option Path)) (point : CGPoint) :
    YXLiveRoomView.hitTest true state hits point = lastAnswer hits := by
  have hloop := respondLoop_eq (Nat.le_refl hits.length)
  rw [List.take_length] at hloop
  cases hits with
  | nil => rfl
  | cons hit hits => exact hloop

/-! ## What the subviews answer -/

/-- An answer comes from one of the subviews, and names it first. -/
theorem mem_answers {k : Nat} {views : List UIView} : some path ∈ answers k views point ↔
    ∃ i w rest, views[i]? = some w ∧ path = (k + i) :: rest ∧
      w.hitTest (w.state.convertPoint point) = some rest := by
  induction views generalizing k with
  | nil => simp [answers]
  | cons view views ih =>
    rw [answers, List.mem_cons, ih]
    constructor
    · rintro (h | ⟨i, w, rest, hw, hpath, hhit⟩)
      · obtain ⟨rest, hhit, rfl⟩ := Option.map_eq_some_iff.mp h.symm
        exact ⟨0, view, rest, rfl, rfl, hhit⟩
      · exact ⟨i + 1, w, rest, hw, by rw [hpath, Nat.add_assoc, Nat.add_comm 1 i], hhit⟩
    · rintro ⟨i, w, rest, hw, rfl, hhit⟩
      cases i with
      | zero =>
        obtain rfl : view = w := Option.some.inj hw
        exact .inl (by rw [hhit]; rfl)
      | succ i => exact .inr ⟨i, w, rest, hw, by rw [Nat.add_assoc, Nat.add_comm 1 i], hhit⟩

theorem lastAnswer_ne_self {k : Nat} {views : List UIView} : lastAnswer (answers k views point) ≠ some [] := by
  intro h
  obtain ⟨_, _, _, _, hpath, _⟩ := mem_answers.mp (lastAnswer_mem h)
  cases hpath

/-! ## Views that take touches -/

/-- The view takes the touch itself if no subview does. -/
def UIViewState.accepts (state : UIViewState) (point : CGPoint) : Bool :=
  !state.ignored && state.pointInside point

theorem superHitTest_eq (state : UIViewState) (hits : List (Option Path)) (point : CGPoint) :
    superHitTest state hits point = if state.accepts point then some ((lastAnswer hits).getD []) else none := by
  unfold superHitTest UIViewState.accepts
  cases state.ignored <;> cases state.pointInside point <;> rfl

namespace UIView

/-- A `YXLiveRoomView` with `penetrate` set. -/
def penetrates (view : UIView) : Bool := decide (view.viewClass = .YXLiveRoomView true)

/-- `[super hitTest:point withEvent:event]` of a view: the default search. -/
def defaultHitTest (view : UIView) (point : CGPoint) : Option Path :=
  superHitTest view.state (answers 0 view.subviews point) point

theorem hitTest_of_penetrates (h : v.penetrates = true) :
    v.hitTest point = lastAnswer (answers 0 v.subviews point) := by
  obtain ⟨viewClass, state, subviews⟩ := v
  obtain rfl : viewClass = .YXLiveRoomView true := of_decide_eq_true h
  exact penetrating_hitTest state _ point

theorem hitTest_of_not_penetrates (h : v.penetrates = false) : v.hitTest point = v.defaultHitTest point := by
  obtain ⟨viewClass, state, subviews⟩ := v
  cases viewClass with
  | UIView => rfl
  | YXLiveRoomView penetrate =>
    cases penetrate with
    | false => rfl
    | true => cases h

/-- The view at a path, with the point in its own coordinates. -/
def descend : UIView → CGPoint → Path → Option (UIView × CGPoint)
  | view, point, [] => some (view, point)
  | view, point, i :: path =>
    match view.subviews[i]? with
    | some w => descend w (w.state.convertPoint point) path
    | none => none

/-- **What is hit takes touches**: it is no penetrating view, and it is shown,
enabled and contains the point. -/
theorem hitTest_accepts (h : v.hitTest point = some path) : ∃ w q, v.descend point path = some (w, q) ∧
    w.penetrates = false ∧ w.state.accepts q = true := by
  induction path generalizing v point with
  | nil =>
    cases hp : v.penetrates with
    | true =>
      rw [hitTest_of_penetrates hp] at h
      exact absurd h lastAnswer_ne_self
    | false =>
      rw [hitTest_of_not_penetrates hp, defaultHitTest, superHitTest_eq] at h
      split at h
      next hacc => exact ⟨v, point, rfl, hp, hacc⟩
      next => cases h
  | cons i rest ih =>
    have hlast : lastAnswer (answers 0 v.subviews point) = some (i :: rest) := by
      cases hp : v.penetrates with
      | true => rwa [hitTest_of_penetrates hp] at h
      | false =>
        rw [hitTest_of_not_penetrates hp, defaultHitTest, superHitTest_eq] at h
        split at h
        next =>
          cases hl : lastAnswer (answers 0 v.subviews point) with
          | none => simp [hl] at h
          | some path => simpa [hl] using h
        next => cases h
    obtain ⟨j, w, rest', hw, hpath, hhit⟩ := mem_answers.mp (lastAnswer_mem hlast)
    obtain ⟨rfl, rfl⟩ : i = j ∧ rest = rest' := by simpa using hpath
    obtain ⟨u, q, hdescend, hrest⟩ := ih hhit
    refine ⟨u, q, ?_, hrest⟩
    simp only [descend, hw, hdescend]

/-! ## When a view answers at all -/

mutual

/-- The first views on the way down that do not penetrate, each with the
point in its own coordinates. -/
def front : UIView → CGPoint → List (UIViewState × CGPoint)
  | .mk viewClass state subviews, point =>
    if viewClass = .YXLiveRoomView true then fronts subviews point else [(state, point)]

def fronts : List UIView → CGPoint → List (UIViewState × CGPoint)
  | [], _ => []
  | view :: views, point => view.front (view.state.convertPoint point) ++ fronts views point

end

theorem front_of_penetrates (h : v.penetrates = true) : v.front point = fronts v.subviews point := by
  obtain ⟨viewClass, state, subviews⟩ := v
  exact if_pos (of_decide_eq_true h)

theorem front_of_not_penetrates (h : v.penetrates = false) : v.front point = [(v.state, point)] := by
  obtain ⟨viewClass, state, subviews⟩ := v
  exact if_neg (of_decide_eq_false h)

theorem defaultHitTest_isSome : (v.defaultHitTest point).isSome = v.state.accepts point := by
  rw [defaultHitTest, superHitTest_eq]
  cases v.state.accepts point <;> rfl

mutual

theorem hitTest_isSome : ∀ (v : UIView) (point : CGPoint),
    (v.hitTest point).isSome = true ↔ ∃ x ∈ v.front point, x.1.accepts x.2 = true
  | .mk viewClass state subviews, point => by
    cases hp : (UIView.mk viewClass state subviews).penetrates with
    | true =>
      rw [hitTest_of_penetrates hp, front_of_penetrates hp, lastAnswer_isSome]
      exact answers_isSome 0 subviews point
    | false =>
      rw [hitTest_of_not_penetrates hp, front_of_not_penetrates hp, defaultHitTest_isSome]
      simp

theorem answers_isSome : ∀ (k : Nat) (views : List UIView) (point : CGPoint),
    (∃ hit ∈ answers k views point, hit.isSome = true) ↔ ∃ x ∈ fronts views point, x.1.accepts x.2 = true
  | _, [], _ => by simp [answers, fronts]
  | k, view :: views, point => by
    have hview := hitTest_isSome view (view.state.convertPoint point)
    have hviews := answers_isSome (k + 1) views point
    simp only [answers, fronts, List.mem_cons, List.mem_append, or_and_right, exists_or, exists_eq_left,
      Option.isSome_map, hview, hviews]

end

/-! ## The rules of hit testing -/

/-- A hit, with `nil` in place of the view that was asked. -/
def exceptSelf (hit : Option Path) : Option Path := if hit = some [] then none else hit

/-- What the hit test of a penetrating view is to give back at a point. -/
structure KeepsRules (v : UIView) (point : CGPoint) : Prop where
  ignored : v.state.ignored = true → v.hitTest point = none
  passes : v.state.ignored = false → v.state.pointInside point = true →
    v.hitTest point = exceptSelf (v.defaultHitTest point)

/-- Of a view that takes touches, penetrating leaves out the view itself. -/
theorem hitTest_passes (hp : v.penetrates = true) (hacc : v.state.accepts point = true) :
    v.hitTest point = exceptSelf (v.defaultHitTest point) := by
  rw [hitTest_of_penetrates hp, defaultHitTest, superHitTest_eq, if_pos hacc]
  have hne : lastAnswer (answers 0 v.subviews point) ≠ some [] := lastAnswer_ne_self
  cases hl : lastAnswer (answers 0 v.subviews point) with
  | none => rfl
  | some path =>
    rw [hl] at hne
    exact (if_neg hne).symm

/-- **When a penetrating view keeps the rules**: when it is shown and
enabled, or none of the views in front takes the touch. -/
theorem keepsRules_iff (v : UIView) (point : CGPoint) (hv : v.viewClass = .YXLiveRoomView true) :
    KeepsRules v point ↔ v.state.ignored = false ∨ ∀ x ∈ v.front point, x.1.accepts x.2 = false := by
  have hp : v.penetrates = true := decide_eq_true hv
  have hanswers := hitTest_isSome v point
  constructor
  · intro h
    cases hi : v.state.ignored with
    | false => exact .inl rfl
    | true =>
      rw [h.ignored hi] at hanswers
      right
      intro x hx
      cases hacc : x.1.accepts x.2 with
      | false => rfl
      | true => exact absurd (hanswers.mpr ⟨x, hx, hacc⟩) (by simp)
  · intro h
    refine ⟨fun hi => ?_, fun hi hinside => hitTest_passes hp (by simp [UIViewState.accepts, hi, hinside])⟩
    rcases h with h | h
    · rw [hi] at h
      cases h
    · rw [← Option.not_isSome_iff_eq_none, hanswers]
      rintro ⟨x, hx, hacc⟩
      rw [h x hx] at hacc
      cases hacc

/-- A shown, enabled view with a frame. -/
def framed (frame : CGRect) : UIViewState where
  hidden := false
  alpha := 1
  userInteractionEnabled := true
  pointInside point := CGRect.containsPoint { frame with x := 0, y := 0 } point
  convertPoint point := { x := point.x - frame.x, y := point.y - frame.y }

/-- A plain view. -/
def button : UIView := .mk .UIView (framed { x := 20, y := 20, width := 40, height := 40 }) []

/-- A penetrating view with a button on it. -/
def room (hidden : Bool) : UIView :=
  .mk (.YXLiveRoomView true) { framed { x := 0, y := 0, width := 100, height := 100 } with hidden } [button]

/-- The button takes a touch on it, and a touch beside it falls through. -/
example : (room false).hitTest { x := 30, y := 30 } = some [0] ∧
    (room false).hitTest { x := 10, y := 10 } = none := by decide +kernel

theorem keepsRules_shown : KeepsRules (room false) { x := 30, y := 30 } :=
  (keepsRules_iff (room false) { x := 30, y := 30 } rfl).mpr (.inl (by decide +kernel))

/-- The button of a hidden view still takes touches. -/
theorem hidden_room_hit : ¬ ∀ (v : UIView) (point : CGPoint), v.viewClass = .YXLiveRoomView true →
    KeepsRules v point := by
  intro h
  have hnil := (h (room true) { x := 30, y := 30 } rfl).ignored (by decide +kernel)
  have hhit : (room true).hitTest { x := 30, y := 30 } = some [0] := by decide +kernel
  rw [hhit] at hnil
  cases hnil

end UIView

end LearningDemo
