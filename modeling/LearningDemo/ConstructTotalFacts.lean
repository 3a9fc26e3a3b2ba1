/-
What `construnctCore` does with arrays that need not be traversals.

The index of the root is inside the range whatever the arrays hold, 0 when
the label is missing, so the lengths of the two calls below add up to one
less than the length (`core_total`, by induction on the depth). Of the
arrays handed down only the lengths matter, and they are the call's own.
-/
import LearningDemo.ConstructFacts

namespace LearningDemo.StringArray

open Imperative

variable {pre mid : List Int} {length rootIndex : Int}

/-- The root is looked for inside the range, and taken to be at 0 if it is not there. -/
theorem findRoot_inside (hpos : 0 < length) (hpre : pre ≠ []) (hmid : length ≤ mid.length) :
    ∃ rootIndex, findRoot pre mid length = .ok rootIndex ∧ 0 ≤ rootIndex ∧ rootIndex < length := by
  obtain ⟨x, hx⟩ : ∃ x, load pre 0 = .ok x :=
    load_inside (Int.le_refl 0) (by have := List.length_pos_iff.mpr hpre; omega)
  -- the bound on the turns to come is the number of cells not yet compared
  have hloop : ∃ e, loop (findMore length) (findTurn pre mid) (length.toNat + 1) ⟨0, 0⟩ = .ok e ∧
      ∃ s, e = .left s ∧ 0 ≤ s.rootIndex ∧ s.rootIndex < length := by
    refine loop_returns (k := length.toNat)
      (I := fun k s => 0 ≤ s.i ∧ s.i + k = length ∧ s.rootIndex = 0) (fun k s hs => ?_)
      ⟨Int.le_refl 0, by simp; omega, rfl⟩ (Nat.lt_succ_self _)
    obtain ⟨hi, hk, hroot⟩ := hs
    by_cases hlt : s.i < length
    · right
      refine ⟨by simp [findMore, hlt], ?_⟩
      obtain ⟨m, hm⟩ := load_inside (a := mid) hi (by omega)
      by_cases he : m = x
      · exact ⟨.brk { s with rootIndex := s.i }, by simp [findTurn, hm, hx, he], _, rfl, hi, hlt⟩
      · refine ⟨.next { s with i := s.i + 1 }, by simp [findTurn, hm, hx, he], k - 1, ?_, by omega⟩
        exact ⟨by show 0 ≤ s.i + 1; omega, by show s.i + 1 + ((k - 1 : Nat) : Int) = length; omega, hroot⟩
    · left
      exact ⟨by simp [findMore, hlt], s, rfl, by omega, by omega⟩
  obtain ⟨_, he, s, rfl, h0, hlt⟩ := hloop
  refine ⟨s.rootIndex, ?_, h0, hlt⟩
  unfold findRoot
  rw [he]
  rfl

/-- The two arrays of a side, after some writes, are as long as before. -/
def SameLengths (c d : List Int × List Int) : Prop := d.1.length = c.1.length ∧ d.2.length = c.2.length

theorem left_inside (pre mid : List Int) (c : List Int × List Int) (h0 : 0 ≤ rootIndex) (hpre : rootIndex < pre.length)
    (hmid : rootIndex ≤ mid.length) (h1 : rootIndex ≤ c.1.length) (h2 : rootIndex ≤ c.2.length) :
    ∃ c', forRange 0 rootIndex (leftTurn pre mid) c = .ok c' ∧ SameLengths c c' := by
  refine forRange_ok (I := fun _ => SameLengths c) h0 (fun j d hj hlt hd => ?_) ⟨rfl, rfl⟩
  obtain ⟨h1', h2'⟩ := hd
  obtain ⟨p, hp⟩ := load_inside (a := pre) (i := j + 1) (by omega) (by omega)
  obtain ⟨m, hm⟩ := load_inside (a := mid) hj (by omega)
  obtain ⟨d1, hd1, hlen1⟩ := store_inside (a := d.1) (v := p) hj (by omega)
  obtain ⟨d2, hd2, hlen2⟩ := store_inside (a := d.2) (v := m) hj (by omega)
  exact ⟨(d1, d2), by simp [leftTurn, hp, hm, hd1, hd2], hlen1.trans h1', hlen2.trans h2'⟩

theorem right_inside (pre mid : List Int) (c : List Int × List Int) (h0 : 0 ≤ rootIndex) (hroot : rootIndex < length)
    (hpre : length ≤ pre.length) (hmid : length ≤ mid.length) (h1 : 0 < c.1.length) (h2 : 0 < c.2.length) :
    ∃ c', forRange (rootIndex + 1) length (rightTurn pre mid) c = .ok c' ∧ SameLengths c c' := by
  refine forRange_ok (I := fun _ => SameLengths c) (by omega) (fun j d hj hlt hd => ?_) ⟨rfl, rfl⟩
  obtain ⟨h1', h2'⟩ := hd
  obtain ⟨p, hp⟩ := load_inside (a := pre) (i := j) (by omega) (by omega)
  obtain ⟨m, hm⟩ := load_inside (a := mid) (i := j) (by omega) (by omega)
  obtain ⟨d1, hd1, hlen1⟩ := store_inside (a := d.1) (v := p) (Int.le_refl 0) (by omega)
  obtain ⟨d2, hd2, hlen2⟩ := store_inside (a := d.2) (v := m) (Int.le_refl 0) (by omega)
  exact ⟨(d1, d2), by simp [rightTurn, hp, hm, hd1, hd2], hlen1.trans h1', hlen2.trans h2'⟩

/-- A call whose arrays are at least as long as its range returns, with a
node for every cell of the range. -/
theorem core_total (depth : Nat) (fresh : List Side → Scratch) (pre mid : List Int) (length : Nat)
    (hdepth : length < depth) (hpre : length ≤ pre.length) (hmid : length ≤ mid.length) :
    ∃ t, construnctCore depth fresh pre mid length = .ok t ∧ t.size = length ∧
      ∀ root l r, t = .node root l r → load pre 0 = .ok root := by
  induction depth generalizing fresh pre mid length with
  | zero => omega
  | succ depth ih =>
    by_cases hlen : length = 0
    · subst hlen
      exact ⟨.null, by simp [construnctCore], rfl, fun _ _ _ h => by cases h⟩
    have hne : (length : Int) ≠ 0 := by omega
    have hbuf : ∀ f, (buffer length f).length = length := fun f => by rw [length_buffer, Int.toNat_natCast]
    obtain ⟨root, hroot⟩ : ∃ root, load pre 0 = .ok root := load_inside (Int.le_refl 0) (by omega)
    obtain ⟨rootIndex, hfind, h0, hlt⟩ :
        ∃ rootIndex, findRoot pre mid length = .ok rootIndex ∧ 0 ≤ rootIndex ∧ rootIndex < length :=
      findRoot_inside (by omega) (List.ne_nil_of_length_pos (by omega)) (by omega)
    obtain ⟨left, hleft, hl1, hl2⟩ := left_inside pre mid
      (buffer length (fresh []).preLeft, buffer length (fresh []).midLeft) h0 (by omega) (by omega)
      (by rw [hbuf]; omega) (by rw [hbuf]; omega)
    obtain ⟨right, hright, hr1, hr2⟩ := right_inside pre mid
      (buffer length (fresh []).preRight, buffer length (fresh []).midRight) h0 hlt (by omega) (by omega)
      (by rw [hbuf]; omega) (by rw [hbuf]; omega)
    rw [hbuf] at hl1 hl2 hr1 hr2
    -- the two ranges below leave out the root
    obtain ⟨i, hi⟩ : ∃ i : Nat, rootIndex = i := ⟨rootIndex.toNat, by omega⟩
    obtain ⟨j, hj⟩ : ∃ j : Nat, (length : Int) - rootIndex - 1 = j := ⟨(length - rootIndex - 1).toNat, by omega⟩
    obtain ⟨l, hlcall, hlsize, -⟩ :=
      ih (under fresh .left) left.1 left.2 i (by omega) (by omega) (by omega)
    obtain ⟨r, hrcall, hrsize, -⟩ :=
      ih (under fresh .right) right.1 right.2 j (by omega) (by omega) (by omega)
    refine ⟨.node root l r, ?_, ?_, fun root' l' r' h => ?_⟩
    · rw [← hi] at hlcall
      rw [← hj] at hrcall
      simp only [construnctCore, if_neg hne, hfind, hroot, hleft, hright, hlcall, hrcall, ok_bind, pure_ok]
    · simp only [BinaryNode.size]
      omega
    · obtain ⟨rfl, -, -⟩ := BinaryNode.node.inj h
      exact hroot

/-- **`construnctCore` is total.** For any two arrays of one length, whatever
the uninitialised ones hold, it returns without leaving an array, with as
many nodes as the arrays have cells and the first cell of `pre` at the root. -/
theorem construnctCore_total (fresh : List Side → Scratch) (pre mid : List Int) (length : Nat)
    (hpre : pre.length = length) (hmid : mid.length = length) :
    Returns (fun depth => construnctCore depth fresh pre mid length)
      (fun t => t.size = length ∧ ∀ root l r, t = .node root l r → load pre 0 = .ok root) :=
  ⟨length + 1, fun depth hdepth => core_total depth fresh pre mid length hdepth (by omega) (by omega)⟩

/-- The label 3 is not in `mid`, and the arrays below hold zeros. -/
theorem construnctCore_total_missing : Returns (fun depth => construnctCore depth zeros [3, 1, 2] [7, 8, 8] 3)
    (fun t => t.size = 3 ∧ ∀ root l r, t = .node root l r → load [3, 1, 2] 0 = .ok root) :=
  construnctCore_total zeros [3, 1, 2] [7, 8, 8] 3 rfl rfl

/-- Below the root, 2 is the label read last and 0 was never written. -/
example : construnctCore 4 zeros [3, 1, 2] [7, 8, 8] 3 =
    .ok (.node 3 .null (.node 2 .null (.node 0 .null .null))) := by decide

end LearningDemo.StringArray
