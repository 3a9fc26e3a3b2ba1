/-
The level selector shows the current level, and only that one, as selected;
no tap ever reaches it.

Each message of the code sets the look of one cell, on or off screen; what
the cells on screen look like is then a predicate on indexes, changed at one
index by each message (`styled_setupCellItemAtIndex`). A tap sends four of
them: the old level is set selected, and the setter takes it back before it
selects the new one, which may be the same.
-/
import LearningDemo.BeautyGroupSelector
import LearningDemo.Lib.Lts

namespace LearningDemo

open Screen

namespace VSBeautyGroupSelector

variable {s : VSBeautyGroupSelector} {index level : Nat} {Q : Nat → Prop}

/-- The cell is styled as selected. -/
def LooksSelected (s : VSBeautyGroupSelector) (cell : BeautyCell) : Prop :=
  cell.backgroundColor = s.selectedBgColor ∧ cell.borderColor = s.borderColor ∧
    cell.textColor = s.selectedTextColor ∧ cell.font = s.selectedFont.getD (systemFontOfSize 17)

/-- The cells on screen styled as selected are those at the indexes `Q`. -/
def Styled (s : VSBeautyGroupSelector) (Q : Nat → Prop) : Prop :=
  Each (fun i cell => s.LooksSelected cell ↔ Q i) s.cells

/-- The two styles are told apart by the background. -/
def Coloured (s : VSBeautyGroupSelector) : Prop := s.normalBgColor ≠ s.selectedBgColor

theorem looksSelected_setupCell (hc : s.Coloured) (cell : BeautyCell) (selected : Bool) :
    s.LooksSelected (s.setupCell cell selected) ↔ selected = true := by
  cases selected with
  | true => exact iff_of_true ⟨rfl, rfl, rfl, rfl⟩ rfl
  | false => exact iff_of_false (fun h => hc h.1) (by decide)

theorem looksSelected_cellForItem (hc : s.Coloured) (cell : BeautyCell) (index : Nat) :
    s.LooksSelected (s.cellForItem cell index) ↔ index = s.currentLevel := by
  unfold cellForItem
  split
  · rename_i h
    exact iff_of_true ((looksSelected_setupCell hc _ true).mpr rfl) h
  · rename_i h
    exact iff_of_false (fun hl => Bool.false_ne_true ((looksSelected_setupCell hc _ false).mp hl)) h

theorem styled_setupCellItemAtIndex (hc : s.Coloured) (h : s.Styled Q) (index : Nat) (selected : Bool) :
    (s.setupCellItemAtIndex index selected).Styled fun i => if i = index then selected = true else Q i := by
  refine Each.tell (fun cell _ => ?_) fun i cell hi hcell => ?_
  · exact (looksSelected_setupCell hc cell selected).trans (iff_of_eq (if_pos rfl).symm)
  · exact (h i cell hcell).trans (iff_of_eq (if_neg hi).symm)

theorem Styled.congr {R : Nat → Prop} (h : s.Styled Q) (hQR : ∀ i, Q i ↔ R i) : s.Styled R :=
  Each.imp h fun i _ hl => hl.trans (hQR i)

theorem setCurrentLevel_eq (s : VSBeautyGroupSelector) (level : Nat) : s.setCurrentLevel level =
    { s with
      currentLevel := level
      cells := tell (tell s.cells s.currentLevel (s.setupCell · false)) level (s.setupCell · true) } := rfl

/-- The setter leaves only the new level looking selected, when only the two
levels were before. -/
theorem styled_setCurrentLevel (hc : s.Coloured) (h : s.Styled Q)
    (hQ : ∀ i, Q i → i = s.currentLevel ∨ i = level) : (s.setCurrentLevel level).Styled (· = level) := by
  have hdropped := styled_setupCellItemAtIndex hc h s.currentLevel false
  have hchosen := styled_setupCellItemAtIndex (s := s.setupCellItemAtIndex s.currentLevel false)
    hc hdropped level true
  refine Styled.congr (s := s.setCurrentLevel level) hchosen fun i => ?_
  split
  · rename_i hi
    exact iff_of_true rfl hi
  · rename_i hi
    refine iff_of_false (fun hstill => ?_) hi
    split at hstill
    · cases hstill
    · exact (hQ i hstill).elim ‹_› hi

/-- What selecting an item does before it sets the level. -/
def touched (s : VSBeautyGroupSelector) (index : Nat) : VSBeautyGroupSelector :=
  (s.setupCellItemAtIndex s.currentLevel true).setupCellItemAtIndex index true

theorem styled_touched (hc : s.Coloured) (h : s.Styled (· = s.currentLevel)) :
    (s.touched index).Styled fun i => i = s.currentLevel ∨ i = index := by
  have hcurrent := styled_setupCellItemAtIndex hc h s.currentLevel true
  have hboth := styled_setupCellItemAtIndex (s := s.setupCellItemAtIndex s.currentLevel true)
    hc hcurrent index true
  refine Styled.congr (s := s.touched index) hboth fun i => ?_
  grind

theorem didSelectItem_eq (s : VSBeautyGroupSelector) (index : Nat) :
    let t := (s.touched index).setCurrentLevel index
    s.didSelectItem index = (t, if t.delegate then some t.currentLevel else none) := rfl

/-! ## Runs -/

/-- What no operation changes: the two styles, which differ, and the delegate, which is there. -/
structure Settings (s : VSBeautyGroupSelector) : Prop where
  coloured : s.Coloured
  delegate : s.delegate = true

theorem Settings.setupCellItemAtIndex (h : s.Settings) (index : Nat) (selected : Bool) :
    (s.setupCellItemAtIndex index selected).Settings := ⟨h.coloured, h.delegate⟩

theorem Settings.setCurrentLevel (h : s.Settings) (level : Nat) : (s.setCurrentLevel level).Settings := by
  rw [setCurrentLevel_eq]
  exact ⟨h.coloured, h.delegate⟩

theorem Settings.touched (h : s.Settings) (index : Nat) : (s.touched index).Settings :=
  (h.setupCellItemAtIndex s.currentLevel true).setupCellItemAtIndex index true

/-- The invariant of the runs. -/
structure Inv (s : VSBeautyGroupSelector) : Prop where
  settings : s.Settings
  styled : s.Styled (· = s.currentLevel)

theorem inv_initWithSize (size : CGSize) (frame : CGRect) : Inv { initWithSize size true with frame } :=
  ⟨⟨show UIColor.gray 1 (1 / 5) ≠ .redColor by decide, rfl⟩, each_nothing⟩

theorem Inv.appear (h : s.Inv) (p : Nat × BeautyCell) : (s.appear p).Inv :=
  ⟨⟨h.settings.coloured, h.settings.delegate⟩,
    Each.put h.styled (looksSelected_cellForItem h.settings.coloured p.2 p.1)⟩

theorem inv_setCurrentLevel (h : s.Settings) (hst : s.Styled Q)
    (hQ : ∀ i, Q i → i = s.currentLevel ∨ i = level) : (s.setCurrentLevel level).Inv :=
  ⟨h.setCurrentLevel level, styled_setCurrentLevel h.coloured hst hQ⟩

theorem Inv.didSelectItem (h : s.Inv) (index : Nat) : (s.didSelectItem index).1.Inv := by
  -- Both levels look selected before the setter runs.
  rw [didSelectItem_eq]
  exact inv_setCurrentLevel (h.settings.touched index) (styled_touched h.settings.coloured h.styled) fun _ hi => hi

theorem Inv.touch (h : s.Inv) (index : Nat) (hit : Option HitView) : (s.touch index hit).1.Inv :=
  match hit with
  | some .collectionView => h.didSelectItem index
  | some .selector => h
  | none => h

theorem Inv.perform (h : s.Inv) (op : Op) : (s.perform op).1.Inv := by
  have hset := h.settings
  cases op with
  | tap index point => exact h.touch index (s.hitTest point)
  | assign level => exact inv_setCurrentLevel hset h.styled fun _ hi => .inl hi
  | setLevelCount levelCount visible =>
    have hempty : Inv { s with levelCount, cells := nothing } := ⟨⟨hset.coloured, hset.delegate⟩, each_nothing⟩
    exact List.foldlRecOn visible VSBeautyGroupSelector.appear hempty fun _ hs p _ => hs.appear p
  | appear index dequeued => exact h.appear (index, dequeued)
  | disappear index => exact ⟨⟨hset.coloured, hset.delegate⟩, Each.remove h.styled index⟩

/-! ## What the delegate is told -/

theorem touch_told (h : s.Settings) (index : Nat) (hit : Option HitView) :
    (s.touch index hit).2.toList = if hit = some .collectionView then [index] else [] := by
  match hit with
  | some .collectionView =>
    have hdelegate := ((h.touched index).setCurrentLevel index).delegate
    rw [touch, didSelectItem_eq, if_pos hdelegate, setCurrentLevel_eq]
    rfl
  | some .selector => rfl
  | none => rfl

/-- The hit test keeps every touch from the collection view. -/
theorem hitTest_ne_collectionView (s : VSBeautyGroupSelector) (point : CGPoint) :
    s.hitTest point ≠ some .collectionView := by
  unfold hitTest
  dsimp only
  split <;> simp

theorem perform_told (h : s.Inv) (op : Op) : (s.perform op).2.toList = [] := by
  cases op with
  | tap index point =>
    rw [perform, touch_told h.settings, if_neg (s.hitTest_ne_collectionView point)]
  | assign | setLevelCount | appear | disappear => rfl

/-- The levels tapped. -/
def tapped : Op → List Nat
  | .tap index _ => [index]
  | .assign _ | .setLevelCount _ _ | .appear _ _ | .disappear _ => []

theorem flatMap_tapped_eq_nil {ops : List Op} :
    ops.flatMap tapped = [] ↔ ∀ index point, .tap index point ∉ ops := by
  rw [List.flatMap_eq_nil_iff]
  constructor
  · intro h index point hmem
    exact List.cons_ne_nil _ _ (h _ hmem)
  · intro h op hop
    cases op with
    | tap index point => exact absurd hop (h index point)
    | assign | setLevelCount | appear | disappear => rfl

theorem step_some {a b : VSBeautyGroupSelector × List Nat} {op : Op} (h : step a op = some b) :
    b.1 = (a.1.perform op).1 ∧ b.2 = a.2 ++ (a.1.perform op).2.toList := by
  unfold step at h
  split at h
  · obtain rfl := Option.some.inj h
    exact ⟨rfl, rfl⟩
  · cases h

/-- In every state of every run the cells on screen styled as selected are
those of the current level, and the delegate was told of nothing. -/
theorem run_inv (size : CGSize) (frame : CGRect) {ops : List Op} {t : VSBeautyGroupSelector} {told : List Nat}
    (hrun : Lts.run step ({ initWithSize size true with frame }, []) ops = some (t, told)) :
    t.Inv ∧ told = [] := by
  have hstep (a : VSBeautyGroupSelector × List Nat) (op : Op) (b : VSBeautyGroupSelector × List Nat)
      (ha : a.1.Inv) (hs : step a op = some b) : b.1.Inv := by
    rw [(step_some hs).1]
    exact ha.perform op
  have hstart := inv_initWithSize size frame
  refine ⟨Lts.run_invariant (I := fun a => a.1.Inv) hstep hstart hrun, ?_⟩
  have hlog := Lts.run_log Prod.snd (fun _ => []) hstep (fun a op b ha hs => by
    rw [(step_some hs).2, perform_told ha]) hstart hrun
  exact hlog.trans (List.flatMap_eq_nil_iff.mpr fun _ _ => rfl)

/-- The current level is the highlighted one in every run, and every tap is
reported in exactly the runs without a tap. -/
theorem selected_told_iff (size : CGSize) (frame : CGRect) {ops : List Op} {t : VSBeautyGroupSelector}
    {told : List Nat} (hrun : Lts.run step ({ initWithSize size true with frame }, []) ops = some (t, told)) :
    (Each (fun i cell => t.LooksSelected cell ↔ i = t.currentLevel) t.cells ∧ told = ops.flatMap tapped) ↔
      ∀ index point, .tap index point ∉ ops := by
  obtain ⟨hinv, rfl⟩ := run_inv size frame hrun
  rw [← flatMap_tapped_eq_nil, eq_comm (a := [])]
  exact and_iff_right hinv.styled

/-- The selector of a container 320 points wide. -/
def sample : VSBeautyGroupSelector := initWithSize { width := 320, height := 150 } true

/-- Two levels come on screen, the second is assigned. -/
theorem selected_told_second : ∃ t, Lts.run step (sample, []) [.appear 0 .initWithFrame,
    .appear 1 .initWithFrame, .assign 1] = some (t, []) ∧ t.currentLevel = 1 ∧
    Each (fun i cell => t.LooksSelected cell ↔ i = t.currentLevel) t.cells := by
  obtain ⟨t, hrun, hlevel⟩ : ∃ t, Lts.run step (sample, []) [.appear 0 .initWithFrame,
    .appear 1 .initWithFrame, .assign 1] = some (t, []) ∧ t.currentLevel = 1 := ⟨_, rfl, rfl⟩
  have hno : ∀ index point, Op.tap index point ∉ [.appear 0 .initWithFrame, .appear 1 .initWithFrame, .assign 1] := by
    simp
  exact ⟨t, hrun, hlevel, ((selected_told_iff { width := 320, height := 150 } sample.frame hrun).mpr hno).1⟩

/-- The second level is tapped: it is not selected, and nothing is reported. -/
theorem tap_not_told : ¬ ∀ (ops : List Op) (t : VSBeautyGroupSelector) (told : List Nat),
    Lts.run step (sample, []) ops = some (t, told) →
      Each (fun i cell => t.LooksSelected cell ↔ i = t.currentLevel) t.cells ∧ told = ops.flatMap tapped := by
  intro h
  obtain ⟨t, told, hrun⟩ : ∃ t told, Lts.run step (sample, []) [.appear 0 .initWithFrame,
    .appear 1 .initWithFrame, .tap 1 { x := 90, y := 75 }] = some (t, told) := ⟨_, _, rfl⟩
  have htold := (h _ t told hrun).2
  rw [(run_inv { width := 320, height := 150 } sample.frame hrun).2] at htold
  exact absurd htold (by decide)

end VSBeautyGroupSelector

end LearningDemo
