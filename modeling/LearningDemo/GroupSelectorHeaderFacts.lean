/-
The tabs highlight the current one exactly as long as the data source
recognises it.

A tap and an assignment do the same (`didSelectItem_ok`), and the colour moves
with the index whatever the two cells looked like before (`lit_clickFromIndex`).
The data source colours the first tab, the current one or not: a cell it
styles is right when it is neither the first tab nor the current one, and
when the first tab is the current one.
-/
import LearningDemo.GroupSelectorHeader
import LearningDemo.Lib.Lts

namespace LearningDemo

open Imperative Screen

namespace VSGroupSelectorHeader

variable {self self' : VSGroupSelectorHeader} {fromIndex toIndex index : Int}

/-! ## Clicks -/

/-- What `_scaleCellItem:scale:` does to a cell on screen. -/
def scaled (self : VSGroupSelectorHeader) (scale : ℚ) (cell : HeaderCell) : HeaderCell :=
  if self.selectedScale = 0 then cell else cell.setScale scale

theorem scaleCellItem_eq (self : VSGroupSelectorHeader) (index : Int) (scale : ℚ) :
    self.scaleCellItem index scale = self.tellCell index (self.scaled scale) := by
  unfold scaleCellItem
  split
  · rename_i h0
    have hid : self.scaled scale = id := funext fun cell => if_pos h0
    rw [tellCell, hid, tell_id]
  · rename_i h0
    have hset : self.scaled scale = (·.setScale scale) := funext fun cell => if_neg h0
    rw [hset]

/-- What a click does to the cell of the tab clicked, -/
def chosen (self : VSGroupSelectorHeader) (cell : HeaderCell) : HeaderCell :=
  self.scaled self.selectedScale (cell.setTextColor self.selectedColor)

/-- and to the cell of the tab left. -/
def dropped (self : VSGroupSelectorHeader) (cell : HeaderCell) : HeaderCell :=
  self.scaled 1 (cell.setTextColor (some self.normalColor))

@[simp] theorem scaled_textColor (scale : ℚ) (cell : HeaderCell) :
    (self.scaled scale cell).textColor = cell.textColor := by
  unfold scaled
  split <;> rfl

theorem scaled_absorbs (scale scale' : ℚ) (color color' : Option UIColor) (cell : HeaderCell) :
    self.scaled scale ((self.scaled scale' (cell.setTextColor color')).setTextColor color) =
      self.scaled scale (cell.setTextColor color) := by
  unfold scaled
  split <;> rfl

theorem clickFromIndex_eq (hne : fromIndex ≠ toIndex) : self.clickFromIndex fromIndex toIndex =
    { self with
      underLine := self.underLineFrameAtIndex toIndex
      cells := tell (tell self.cells toIndex self.chosen) fromIndex self.dropped } := by
  rw [clickFromIndex, if_neg hne]
  simp only [clickUnderLine, clickCellItem, scaleCellItem_eq, tellCell]
  rw [tell_pair hne.symm]
  rfl

theorem clickFromIndex_twice :
    (self.clickFromIndex fromIndex toIndex).clickFromIndex fromIndex toIndex =
      self.clickFromIndex fromIndex toIndex := by
  by_cases hne : fromIndex = toIndex
  · simp only [clickFromIndex, if_pos hne]
  · have hcells : tell (tell (tell (tell self.cells toIndex self.chosen) fromIndex self.dropped)
        toIndex self.chosen) fromIndex self.dropped =
        tell (tell self.cells toIndex self.chosen) fromIndex self.dropped :=
      tell_pair_absorbs (Ne.symm hne) self.cells (scaled_absorbs _ _ _ _) (scaled_absorbs _ _ _ _)
    rw [clickFromIndex_eq hne, clickFromIndex_eq hne]
    exact congrArg (fun cells => { self with underLine := self.underLineFrameAtIndex toIndex, cells }) hcells

/-- A click moves the underline and changes cells, nothing else. -/
theorem clickFromIndex_keeps (self : VSGroupSelectorHeader) (fromIndex toIndex : Int) :
    ∃ underLine cells, self.clickFromIndex fromIndex toIndex = { self with underLine, cells } := by
  by_cases hne : fromIndex = toIndex
  · exact ⟨self.underLine, self.cells, if_pos hne⟩
  · exact ⟨_, _, clickFromIndex_eq hne⟩

theorem setCurrentSelectIndex_self (h : self.currentSelectIndex = index) :
    self.setCurrentSelectIndex index = self := by
  subst h
  have hkeep : self.clickFromIndex self.currentSelectIndex self.currentSelectIndex = self := if_pos rfl
  rw [setCurrentSelectIndex, hkeep]

theorem didSelectItem_ok (h : IsTab self.titles index) :
    ∃ report, self.didSelectItem index = .ok (self.setCurrentSelectIndex index, report) := by
  obtain ⟨title, htitle⟩ := load_inside h.1 h.2
  obtain ⟨underLine, cells, hclick⟩ := self.clickFromIndex_keeps self.currentSelectIndex index
  have hset : (self.clickFromIndex self.currentSelectIndex index).setCurrentSelectIndex index =
      self.setCurrentSelectIndex index := by
    have hcur : (self.clickFromIndex self.currentSelectIndex index).currentSelectIndex =
        self.currentSelectIndex := by rw [hclick]
    rw [setCurrentSelectIndex, hcur, clickFromIndex_twice, setCurrentSelectIndex]
  have htitles : (self.setCurrentSelectIndex index).titles = self.titles := by
    rw [setCurrentSelectIndex, hclick]
  simp only [didSelectItem, hset, htitles, htitle]
  split
  · exact ⟨_, rfl⟩
  · exact ⟨_, rfl⟩

/-! ## What a step does -/

/-- The cell the data source returns. -/
def dressed (self : VSGroupSelectorHeader) (p : Int × HeaderCell) : HeaderCell where
  text := self.titles.getD p.1.toNat ""
  textColor := if p.1 = 0 then self.selectedColor.getD .blackColor else self.normalColor
  backgroundColor := .orangeColor
  font := self.normalFont
  scale := p.2.scale

theorem appear_ok {p : Int × HeaderCell} (h : IsTab self.titles p.1) :
    self.appear p = .ok { self with cells := put self.cells p.1 (self.dressed p) } := by
  obtain ⟨title, htitle⟩ := load_inside h.1 h.2
  have htext : self.titles.getD p.1.toNat "" = title := by
    rw [List.getD_eq_getElem?_getD, (load_ok.mp htitle).2, Option.getD_some]
  simp only [appear, cellForItem, htitle, ok_bind, pure_ok, dressed, htext]
  split
  · rw [scaleCellItem_eq, ok_bind, tellCell]
    change Except.ok { self with cells := put (tell _ _ _) _ _ } = _
    rw [put_tell]
    rfl
  · rfl

theorem setTitles_ok {titles : List String} {cellFrames : Int → CGRect} {visible : List (Int × HeaderCell)}
    (h : ∀ p ∈ visible, IsTab titles p.1) : self.setTitles titles cellFrames visible =
      .ok { self with
        titles, cellFrames
        cells := putAll (visible.map fun p => (p.1, { self with titles }.dressed p)) nothing } := by
  suffices hall : ∀ (cells : Cells Int HeaderCell) (visible : List (Int × HeaderCell)),
      (∀ p ∈ visible, IsTab titles p.1) →
      visible.foldlM appear { self with titles, cellFrames, cells } =
        .ok { self with
          titles, cellFrames
          cells := putAll (visible.map fun p => (p.1, { self with titles }.dressed p)) cells } from
    hall nothing visible h
  intro cells visible h
  induction visible generalizing cells with
  | nil => rfl
  | cons p visible ih =>
    rw [List.foldlM_cons, appear_ok (h p List.mem_cons_self), ok_bind]
    exact ih _ fun q hq => h q (List.mem_cons_of_mem p hq)

/-- Where a step of the run leads. -/
def effect (self : VSGroupSelectorHeader) : Op → VSGroupSelectorHeader
  | .tap index | .assign index => self.setCurrentSelectIndex index
  | .setTitles titles cellFrames visible =>
    { self with
      titles, cellFrames
      cells := putAll (visible.map fun p => (p.1, { self with titles }.dressed p)) nothing }
  | .appear index dequeued => { self with cells := put self.cells index (self.dressed (index, dequeued)) }
  | .disappear index => { self with cells := remove self.cells index }

theorem perform_ok {op : Op} (h : Valid self op) : perform self op = .ok (self.effect op) := by
  cases op with
  | tap index =>
    obtain ⟨report, hsel⟩ := didSelectItem_ok h
    rw [perform, hsel]
    rfl
  | assign index => rfl
  | setTitles titles cellFrames visible => exact setTitles_ok h.2
  | appear index dequeued => exact appear_ok h
  | disappear index => rfl

theorem step_some {op : Op} : step self op = some self' ↔ Valid self op ∧ self' = self.effect op := by
  unfold step
  split
  · rename_i hv
    rw [perform_ok hv]
    exact ⟨fun h => ⟨hv, (Option.some.inj h).symm⟩, fun h => congrArg some h.2.symm⟩
  · rename_i hv
    exact ⟨nofun, fun h => absurd h.1 hv⟩

/-! ## The highlight -/

/-- The cells on screen have the selected colour at the index, and only there. -/
def Lit (self : VSGroupSelectorHeader) (index : Int) : Prop :=
  Each (fun i cell => some cell.textColor = self.selectedColor ↔ i = index) self.cells

/-- The tabs highlight the current one. -/
def Highlighted (self : VSGroupSelectorHeader) : Prop := self.Lit self.currentSelectIndex

/-- The data source, which takes the first tab for the current one, is right about the tab. -/
def Recognised (self : VSGroupSelectorHeader) (index : Int) : Prop :=
  index = 0 ↔ index = self.currentSelectIndex

/-- The data source is right about every cell it is asked for. -/
def KeepsHighlight (self : VSGroupSelectorHeader) : Op → Prop
  | .tap _ | .assign _ | .disappear _ => True
  | .setTitles _ _ visible => ∀ p ∈ visible, self.Recognised p.1
  | .appear index _ => self.Recognised index

/-- The selected colour is one, and not the normal one. -/
def Coloured (self : VSGroupSelectorHeader) : Prop :=
  ∃ color, self.selectedColor = some color ∧ color ≠ self.normalColor

theorem chosen_textColor (hc : self.Coloured) (cell : HeaderCell) :
    some (self.chosen cell).textColor = self.selectedColor := by
  obtain ⟨color, hsel, -⟩ := hc
  rw [chosen, scaled_textColor, hsel]
  rfl

theorem dropped_textColor (hc : self.Coloured) (cell : HeaderCell) :
    some (self.dropped cell).textColor ≠ self.selectedColor := by
  obtain ⟨color, hsel, hne⟩ := hc
  rw [dropped, scaled_textColor, hsel]
  exact fun h => hne (Option.some.inj h).symm

theorem dressed_textColor (hc : self.Coloured) (p : Int × HeaderCell) :
    some (self.dressed p).textColor = self.selectedColor ↔ p.1 = 0 := by
  obtain ⟨color, hsel, hne⟩ := hc
  rw [dressed, hsel]
  split
  · rename_i h0
    exact iff_of_true rfl h0
  · rename_i h0
    exact iff_of_false (fun h => hne (Option.some.inj h).symm) h0

theorem lit_clickFromIndex (hc : self.Coloured) (hne : fromIndex ≠ toIndex) (h : self.Lit fromIndex) :
    (self.clickFromIndex fromIndex toIndex).Lit toIndex := by
  have hchosen : Each (fun i cell => i ≠ fromIndex →
      (some cell.textColor = self.selectedColor ↔ i = toIndex)) (tell self.cells toIndex self.chosen) := by
    refine Each.tell (fun cell _ _ => iff_of_true (chosen_textColor hc cell) rfl) ?_
    intro i cell hi hcell hleft
    exact iff_of_false (fun hsel => hleft ((h i cell hcell).mp hsel)) hi
  rw [clickFromIndex_eq hne]
  exact Each.tell (fun cell _ => iff_of_false (dropped_textColor hc cell) hne)
    fun i cell hi hcell => hchosen i cell hcell hi

theorem highlighted_setCurrentSelectIndex (hc : self.Coloured) (h : self.Highlighted) :
    (self.setCurrentSelectIndex index).Highlighted := by
  by_cases hne : self.currentSelectIndex = index
  · rwa [setCurrentSelectIndex_self hne]
  · exact lit_clickFromIndex hc hne h

theorem coloured_effect (hc : self.Coloured) (op : Op) : (self.effect op).Coloured := by
  have hset (index : Int) : (self.setCurrentSelectIndex index).Coloured := by
    obtain ⟨underLine, cells, hclick⟩ := self.clickFromIndex_keeps self.currentSelectIndex index
    rw [setCurrentSelectIndex, hclick]
    exact hc
  cases op with
  | tap index => exact hset index
  | assign index => exact hset index
  | setTitles | appear | disappear => exact hc

/-- Of the steps, only those that ask the data source can lose the highlight,
and do exactly when it is wrong about a cell. -/
theorem highlighted_effect (hc : self.Coloured) (h : self.Highlighted) (op : Op) :
    (self.effect op).Highlighted ↔ self.KeepsHighlight op := by
  cases op with
  | tap index => exact iff_of_true (highlighted_setCurrentSelectIndex hc h) trivial
  | assign index => exact iff_of_true (highlighted_setCurrentSelectIndex hc h) trivial
  | disappear index => exact iff_of_true (Each.remove h index) trivial
  | appear index dequeued =>
    have hdressed := dressed_textColor hc (index, dequeued)
    refine ⟨fun h' => ?_, fun hg => ?_⟩
    · exact hdressed.symm.trans (h' index _ (put_self _ _ _))
    · exact Each.put h (hdressed.trans hg)
  | setTitles titles cellFrames visible =>
    let dressed (p : Int × HeaderCell) := (p.1, { self with titles }.dressed p)
    have hdressed (p : Int × HeaderCell) : some (dressed p).2.textColor = self.selectedColor ↔ p.1 = 0 :=
      dressed_textColor hc p
    refine ⟨fun h' p hp => ?_, fun hg => ?_⟩
    · -- The reload may ask for one tab more than once: the last cell stays.
      obtain ⟨q, hq, hqp, hat⟩ : ∃ q ∈ visible.map dressed, q.1 = p.1 ∧
        putAll (visible.map dressed) nothing p.1 = some q.2 :=
          putAll_mem (p := dressed p) (List.mem_map_of_mem hp)
      obtain ⟨r, -, rfl⟩ := List.mem_map.mp hq
      have hlit : some (dressed r).2.textColor = self.selectedColor ↔ p.1 = self.currentSelectIndex :=
        h' p.1 _ hat
      have hr : r.1 = p.1 := hqp
      rw [hdressed r, hr] at hlit
      exact hlit
    · refine Each.putAll each_nothing fun q hq => ?_
      obtain ⟨r, hr, rfl⟩ := List.mem_map.mp hq
      exact (hdressed r).trans (hg r hr)

/-- In a run of the tabs every state highlights the current one exactly when
the data source was right about every cell it was asked for. -/
theorem highlighted_iff {height : ℚ} {titles : List String} {delegate : Bool} {cellFrames : Int → CGRect}
    {ops : List Op} {t : VSGroupSelectorHeader}
    (hrun : Lts.run step (setup height titles delegate cellFrames) ops = some t) :
    Lts.Always step Highlighted (setup height titles delegate cellFrames) ops ↔
      Lts.Meets step KeepsHighlight (setup height titles delegate cellFrames) ops := by
  refine Lts.always_iff_meets (I := Coloured) (fun s op s' hc hs => ?_) (fun s op s' hc hh hs => ?_)
    ⟨.redColor, rfl, show UIColor.redColor ≠ .gray 1 (1 / 2) by decide⟩ each_nothing hrun
  · obtain ⟨-, rfl⟩ := step_some.mp hs
    exact coloured_effect hc op
  · obtain ⟨-, rfl⟩ := step_some.mp hs
    exact highlighted_effect hc hh op

/-- Two tabs come on screen and the second is tapped. -/
theorem highlighted_tap : Lts.Always step Highlighted (setup 44 ["滤镜", "美颜"] true fun i => ⟨60 * i, 14, 40, 16⟩)
    [.appear 0 .initWithFrame, .appear 1 .initWithFrame, .tap 1] := by
  refine (highlighted_iff rfl).mpr ?_
  refine Lts.meets_cons (iff_of_true rfl rfl) rfl ?_
  refine Lts.meets_cons (iff_of_false (by decide) (by decide)) rfl ?_
  exact Lts.meets_cons trivial rfl trivial

/-- The two tabs come on screen, the second is tapped, the titles are set
again: the first tab is the highlighted one, and the second the current one. -/
theorem highlighted_lost : ∃ ops t,
    Lts.run step (setup 44 ["滤镜", "美颜"] true fun i => ⟨60 * i, 14, 40, 16⟩) ops = some t ∧
      t.currentSelectIndex = 1 ∧ ¬ t.Highlighted := by
  refine ⟨[.appear 0 .initWithFrame, .appear 1 .initWithFrame, .tap 1,
    .setTitles ["滤镜", "美颜"] (fun i => ⟨60 * i, 14, 40, 16⟩) [(0, .initWithFrame), (1, .initWithFrame)]],
    _, rfl, rfl, fun h => ?_⟩
  exact absurd ((h 0 _ rfl).mp rfl) (by decide)

end VSGroupSelectorHeader

end LearningDemo
