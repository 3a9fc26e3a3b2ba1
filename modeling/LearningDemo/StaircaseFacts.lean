/-
What `_getValueIndexForMetrix:` finds.

The corner passes over a row or a column that cannot hold the value, so all
its places in the columns from 1 on stay in the part below and left of the
corner (`Corner.Keeps`). Column 0 is left out: the condition asks for
`column > 0`. A value is missed exactly when it stands there and nowhere
else (`getValueIndex_finds_iff`).
-/
import LearningDemo.StringArray
import Mathlib.Data.List.Forall2

namespace LearningDemo.StringArray

open Imperative

variable {metrix : List (List Int)} {columns : Nat} {value v : Int} {i j : Nat}

/-- The number in row `i` and column `j`. -/
def entry (metrix : List (List Int)) (i j : Nat) : Option Int := metrix[i]?.bind (·[j]?)

/-- A matrix with a row and a column, its rows and its columns in order. -/
structure Ordered (metrix : List (List Int)) (columns : Nat) : Prop where
  row : metrix ≠ []
  column : 0 < columns
  rectangular : ∀ array ∈ metrix, array.length = columns
  across : ∀ array ∈ metrix, array.Pairwise (· ≤ ·)
  down : metrix.Pairwise (List.Forall₂ (· ≤ ·))

/-- What the search should give back: a place of the value, or `nil` when it has none. -/
def Located (metrix : List (List Int)) (value : Int) (index : Option (Int × Int)) : Prop :=
  (∀ row column, index = some (row, column) →
    0 ≤ row ∧ 0 ≤ column ∧ entry metrix row.toNat column.toNat = some value) ∧
  (index = none → ∀ i j, entry metrix i j ≠ some value)

theorem entry_some (h : entry metrix i j = some v) :
    ∃ array ∈ metrix, metrix[i]? = some array ∧ array[j]? = some v := by
  obtain ⟨array, harray, hv⟩ := Option.bind_eq_some_iff.mp h
  exact ⟨array, List.mem_of_getElem? harray, harray, hv⟩

theorem lt_rows (h : entry metrix i j = some v) : i < metrix.length := by
  obtain ⟨_, _, hi, -⟩ := entry_some h
  exact (List.getElem?_eq_some_iff.mp hi).1

namespace Ordered

variable (h : Ordered metrix columns)

include h

theorem lt_columns (he : entry metrix i j = some v) : j < columns := by
  obtain ⟨array, hmem, -, hj⟩ := entry_some he
  rw [← h.rectangular array hmem]
  exact (List.getElem?_eq_some_iff.mp hj).1

theorem entry_inside (hi : i < metrix.length) (hj : j < columns) : ∃ v, entry metrix i j = some v := by
  have hlen := h.rectangular _ (List.getElem_mem hi)
  refine ⟨(metrix[i])[j], ?_⟩
  simp [entry, hi, hlen, hj]

theorem across_le {j' : Nat} {v' : Int} (hj : j ≤ j') (hv : entry metrix i j = some v)
    (hv' : entry metrix i j' = some v') : v ≤ v' := by
  obtain ⟨array, hmem, hi, hv⟩ := entry_some hv
  obtain ⟨array', _, hi', hv'⟩ := entry_some hv'
  obtain rfl : array = array' := Option.some.inj (hi.symm.trans hi')
  obtain ⟨hlt, rfl⟩ := List.getElem?_eq_some_iff.mp hv
  obtain ⟨hlt', rfl⟩ := List.getElem?_eq_some_iff.mp hv'
  rcases Nat.eq_or_lt_of_le hj with rfl | hj
  · exact Int.le_refl _
  · exact List.pairwise_iff_getElem.mp (h.across array hmem) j j' hlt hlt' hj

theorem down_le {i' : Nat} {v' : Int} (hi : i ≤ i') (hv : entry metrix i j = some v)
    (hv' : entry metrix i' j = some v') : v ≤ v' := by
  obtain ⟨array, _, hrow, hj⟩ := entry_some hv
  obtain ⟨array', _, hrow', hj'⟩ := entry_some hv'
  obtain ⟨hlt, rfl⟩ := List.getElem?_eq_some_iff.mp hrow
  obtain ⟨hlt', rfl⟩ := List.getElem?_eq_some_iff.mp hrow'
  rcases Nat.eq_or_lt_of_le hi with rfl | hi
  · rw [hj] at hj'
    exact Int.le_of_eq (Option.some.inj hj')
  · obtain ⟨hltj, rfl⟩ := List.getElem?_eq_some_iff.mp hj
    obtain ⟨hltj', rfl⟩ := List.getElem?_eq_some_iff.mp hj'
    exact (List.pairwise_iff_getElem.mp h.down i i' hlt hlt' hi).get hltj hltj'

theorem columns_eq : (metrix.head?.map List.length).getD 0 = columns := by
  cases hm : metrix with
  | nil => exact absurd hm h.row
  | cons array rest => exact h.rectangular array (by simp [hm])

end Ordered

theorem load_entry {row column : Nat} (h : entry metrix row column = some v) :
    (do load (← load metrix row) column) = .ok v := by
  obtain ⟨array, _, hi, hj⟩ := entry_some h
  have hrow : load metrix row = .ok array := load_ok.mpr ⟨Int.natCast_nonneg _, hi⟩
  have hcolumn : load array column = .ok v := load_ok.mpr ⟨Int.natCast_nonneg _, hj⟩
  rw [hrow, ok_bind, hcolumn]

/-- Every place of the value but those in column 0 is still in front of the corner. -/
structure Keeps (metrix : List (List Int)) (columns : Nat) (value : Int) (row column : Nat) : Prop where
  row_le : row ≤ metrix.length
  column_lt : column < columns
  places : ∀ i j, 1 ≤ j → entry metrix i j = some value → row ≤ i ∧ j ≤ column

/-- A corner that keeps them, and the turns it has left at most. -/
def Cornered (metrix : List (List Int)) (columns : Nat) (value : Int) (k : Nat) (s : Corner) : Prop :=
  ∃ row column : Nat, s = ⟨row, column⟩ ∧ Keeps metrix columns value row column ∧
    metrix.length - row + column = k

/-- Found in a column from 1 on, or in none of them. -/
def Searched (metrix : List (List Int)) (value : Int) (index : Option (Int × Int)) : Prop :=
  (∀ row column, index = some (row, column) →
    0 ≤ row ∧ 1 ≤ column ∧ entry metrix row.toNat column.toNat = some value) ∧
  (index = none → ∀ i j, 1 ≤ j → entry metrix i j ≠ some value)

/-- What the function returns when its loop ends. -/
def answer : Exit Corner (Option (Int × Int)) → Option (Int × Int)
  | .left _ => none
  | .returned index => index

theorem cornerTurn_ends (h : Ordered metrix columns) {row column : Nat}
    (hs : Keeps metrix columns value row column) (hrow : row < metrix.length) (hcolumn : 0 < column) :
    ∃ o, cornerTurn metrix value ⟨row, column⟩ = .ok o ∧
      o.Ends (Cornered metrix columns value) (fun e => Searched metrix value (answer e))
        (metrix.length - row + column) := by
  obtain ⟨tempValue, htemp⟩ := h.entry_inside hrow hs.column_lt
  have hload := load_entry htemp
  have hturn : cornerTurn metrix value ⟨row, column⟩ =
      if tempValue = value then .ok (.ret (some (↑row, ↑column)))
      else if value < tempValue then .ok (.next ⟨row, column - 1⟩)
      else .ok (.next ⟨row + 1, column⟩) := by
    unfold cornerTurn
    simp only [← bind_assoc, hload, ok_bind, pure_ok]
  rw [hturn]
  by_cases heq : tempValue = value
  · -- found: the corner itself
    refine ⟨_, if_pos heq, fun row' column' hindex => ?_, fun hnone => by cases hnone⟩
    cases hindex
    exact ⟨Int.natCast_nonneg _, by omega, heq ▸ htemp⟩
  rw [if_neg heq]
  by_cases hlt : value < tempValue
  · -- everything below is larger too: the column goes
    refine ⟨_, if_pos hlt, _, ⟨row, column - 1, ?_, ⟨hs.row_le, ?_, fun i j hj he => ?_⟩, rfl⟩, by omega⟩
    · congr 1
      omega
    · have := hs.column_lt
      omega
    · obtain ⟨hi, hle⟩ := hs.places i j hj he
      refine ⟨hi, ?_⟩
      have hne : j ≠ column := by
        rintro rfl
        have := h.down_le hi htemp he
        omega
      omega
  · -- everything on the left is smaller too: the row goes
    refine ⟨_, if_neg hlt, _, ⟨row + 1, column, rfl, ⟨hrow, hs.column_lt, fun i j hj he => ?_⟩, rfl⟩, by omega⟩
    obtain ⟨hi, hle⟩ := hs.places i j hj he
    refine ⟨?_, hle⟩
    have hne : i ≠ row := by
      rintro rfl
      have := h.across_le hle he htemp
      omega
    omega

/-- **What the search does** on any such matrix: it looks at every column but the first. -/
theorem getValueIndex_searched (h : Ordered metrix columns) (value : Int) :
    Returns (fun fuel => getValueIndexForMetrix fuel metrix value) (Searched metrix value) := by
  refine ⟨metrix.length + columns, fun fuel hfuel => ?_⟩
  have hpos := h.column
  have hstart : Cornered metrix columns value (metrix.length + (columns - 1)) ⟨0, (columns : Int) - 1⟩ := by
    refine ⟨0, columns - 1, ?_, ⟨Nat.zero_le _, by omega, fun i j _ he => ⟨Nat.zero_le _, ?_⟩⟩, rfl⟩
    · congr 1
      omega
    · have := h.lt_columns he
      omega
  have hloop : ∃ e,
      loop (cornerMore metrix.length) (cornerTurn metrix value) fuel ⟨0, (columns : Int) - 1⟩ = .ok e ∧
      Searched metrix value (answer e) := by
    refine loop_returns (I := Cornered metrix columns value) (Q := fun e => Searched metrix value (answer e))
      (fun k s hs => ?_) hstart (by omega)
    obtain ⟨row, column, rfl, hs, rfl⟩ := hs
    by_cases hmore : row < metrix.length ∧ 0 < column
    · exact .inr ⟨by simp [cornerMore, hmore.1, hmore.2], cornerTurn_ends h hs hmore.1 hmore.2⟩
    · refine .inl ⟨by simp [cornerMore]; omega, (fun _ _ hnone => by cases hnone), fun _ i j hj he => ?_⟩
      -- a place left over would be in front of a corner that has left the matrix
      have hi := lt_rows he
      have hplace := hs.places i j hj he
      omega
  obtain ⟨e, he, hanswer⟩ := hloop
  refine ⟨answer e, ?_, hanswer⟩
  show getValueIndexForMetrix fuel metrix value = .ok (answer e)
  unfold getValueIndexForMetrix
  rw [h.columns_eq]
  simp only [he, ok_bind]
  cases e <;> rfl

theorem getValueIndex_misses (h : Ordered metrix columns) (hi : entry metrix i 0 = some value)
    (hother : ∀ i j, 1 ≤ j → entry metrix i j ≠ some value) :
    ¬ Returns (fun fuel => getValueIndexForMetrix fuel metrix value) (Located metrix value) := by
  intro hret
  obtain ⟨index, hlocated, hplace⟩ := hret.both (getValueIndex_searched h value)
  cases index with
  | none => exact hlocated.2 rfl i 0 hi
  | some place =>
    obtain ⟨_, hcolumn, he⟩ := hplace.1 place.1 place.2 rfl
    exact hother _ _ (by omega) he

/-- **The search finds what is there,** except a value whose only places are
in the first column. -/
theorem getValueIndex_finds_iff (h : Ordered metrix columns) (value : Int) :
    Returns (fun fuel => getValueIndexForMetrix fuel metrix value) (Located metrix value) ↔
      ((∃ i, entry metrix i 0 = some value) → ∃ i j, 1 ≤ j ∧ entry metrix i j = some value) := by
  constructor
  · intro hret hfirst
    obtain ⟨i, hi⟩ := hfirst
    by_contra hnone
    exact getValueIndex_misses h hi (fun i' j' hj he => hnone ⟨i', j', hj, he⟩) hret
  · intro hfirst
    refine (getValueIndex_searched h value).mono fun index hplace =>
      ⟨fun row column hindex => ?_, fun hnone i j he => ?_⟩
    · obtain ⟨hrow, hcolumn, he⟩ := hplace.1 row column hindex
      exact ⟨hrow, by omega, he⟩
    · -- in column 0 it would be in another one too
      have hother : ∃ i j, 1 ≤ j ∧ entry metrix i j = some value := by
        rcases Nat.eq_zero_or_pos j with rfl | hj
        · exact hfirst ⟨i, he⟩
        · exact ⟨i, j, hj, he⟩
      obtain ⟨i', j', hj', he'⟩ := hother
      exact hplace.2 hnone i' j' hj' he'

/-- The matrix the method builds. -/
def sampleMetrix : List (List Int) := [[1, 2, 8, 9], [2, 4, 9, 12], [4, 7, 10, 13], [6, 8, 11, 15]]

theorem sampleMetrix_ordered : Ordered sampleMetrix 4 where
  row := by simp [sampleMetrix]
  column := by decide
  rectangular := by decide
  across := by decide
  down := by decide

theorem getValueIndex_finds_seven :
    Returns (fun fuel => getValueIndexForMetrix fuel sampleMetrix 7) (Located sampleMetrix 7) ↔
      ((∃ i, entry sampleMetrix i 0 = some 7) → ∃ i j, 1 ≤ j ∧ entry sampleMetrix i j = some 7) :=
  getValueIndex_finds_iff sampleMetrix_ordered 7

/-- The 6 of the last row stands in the first column only. -/
theorem getValueIndex_misses_six : Ordered sampleMetrix 4 ∧ entry sampleMetrix 3 0 = some 6 ∧
    getValueIndexForMetrix 9 sampleMetrix 6 = .ok none ∧
    ¬ Returns (fun fuel => getValueIndexForMetrix fuel sampleMetrix 6) (Located sampleMetrix 6) := by
  have hsix : entry sampleMetrix 3 0 = some 6 := by decide
  have hinside : ∀ i < 4, ∀ j < 4, 1 ≤ j → entry sampleMetrix i j ≠ some 6 := by decide
  refine ⟨sampleMetrix_ordered, hsix, by decide,
    getValueIndex_misses sampleMetrix_ordered hsix fun i j hj he => ?_⟩
  exact hinside i (lt_rows he) j (sampleMetrix_ordered.lt_columns he) hj he

end LearningDemo.StringArray
