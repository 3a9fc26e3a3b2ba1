/-
What `smalletItem` finds.

It returns the lower end of its bisection, where the largest number of a
rotated array stands, and a turn never lowers the number at that end
(`returned_ge`). So it comes to the smallest number only when it starts at
one and never leaves them: then every turn moves the lower end, to indexes
that the length alone decides (`lowerEnd`). With one number the ends are
equal, never adjacent, and the loop goes on for ever.
-/
import LearningDemo.Sort
import Mathlib.Data.List.Rotate
import Mathlib.Algebra.Group.Nat.Defs

namespace LearningDemo.Sort

open Imperative

variable {a : List Int} {s : Bisection} {i : Int} {m k : Nat}

/-- `a[i]` is a smallest number of the array. -/
def Minimal (a : List Int) (i : Int) : Prop := ∃ v, load a i = .ok v ∧ ∀ w ∈ a, v ≤ w

/-- The call ends, without leaving the array, at an index of its smallest number. -/
def FindsMinimum (a : List Int) : Prop := Returns (fun fuel => smalletItem fuel (some a) a.length) (Minimal a)

/-- An array in order, its front moved to the back. -/
def Rotated (a : List Int) : Prop := ∃ (b : List Int) (k : Nat), b.Pairwise (· ≤ ·) ∧ a = b.rotate k

/-! ## One turn -/

/-- What a turn can do: return the lower end, or go on from a number there
that is not smaller. -/
theorem smalletTurn_cases {o : Flow Bisection Int} {v : Int} (h : smalletTurn a s = .ok o)
    (hv : load a s.index1 = .ok v) :
    o = .ret s.index1 ∨ ∃ s' w, o = .next s' ∧ load a s'.index1 = .ok w ∧ v ≤ w := by
  unfold smalletTurn at h
  split at h
  · exact .inl (Except.ok.inj h).symm
  · right
    simp only [hv, ok_bind, bind_ok] at h
    obtain ⟨w, hw, h⟩ := h
    split at h
    · cases h
      exact ⟨_, w, rfl, hw, by omega⟩
    · obtain ⟨_, _, h⟩ := bind_ok.mp h
      obtain ⟨_, _, h⟩ := bind_ok.mp h
      split at h
      · cases h; exact ⟨_, v, rfl, hv, Int.le_refl v⟩
      · cases h; exact ⟨_, v, rfl, hv, Int.le_refl v⟩

theorem returned_ge {n : Nat} {r v : Int} (h : loop smalletMore (smalletTurn a) n s = .ok (.returned r))
    (hv : load a s.index1 = .ok v) : ∃ w, load a r = .ok w ∧ v ≤ w := by
  induction n generalizing s v with
  | zero => cases h
  | succ n ih =>
    obtain ⟨m, hm, -, hturn⟩ := loop_returned h
    obtain rfl : n = m := by omega
    rcases hturn with hret | ⟨s', hnext, hrest⟩
    · rcases smalletTurn_cases hret hv with he | ⟨s', w, he, -⟩
      · cases he; exact ⟨v, hv, Int.le_refl v⟩
      · cases he
    · rcases smalletTurn_cases hnext hv with he | ⟨s'', w, he, hw, hle⟩
      · cases he
      · cases he
        obtain ⟨w', hw', hle'⟩ := ih hrest hw
        exact ⟨w', hw', by omega⟩

theorem smalletTurn_no_break (t : Bisection) : smalletTurn a s ≠ .ok (.brk t) := by
  intro h
  unfold smalletTurn at h
  split at h
  · cases h
  · obtain ⟨_, _, h⟩ := bind_ok.mp h
    obtain ⟨_, _, h⟩ := bind_ok.mp h
    split at h
    · cases h
    · obtain ⟨_, _, h⟩ := bind_ok.mp h
      obtain ⟨_, _, h⟩ := bind_ok.mp h
      split at h <;> cases h

/-! ## The lower end -/

/-- Where the lower end stands after `k` turns that all move it, in an array
of `m + 2` numbers. -/
def lowerEnd (m k : Nat) : Nat := m - m / 2 ^ k

theorem lowerEnd_zero : lowerEnd m 0 = 0 := by
  simp [lowerEnd]

theorem lowerEnd_last : lowerEnd m m = m := by
  rw [lowerEnd, Nat.div_eq_of_lt Nat.lt_two_pow_self, Nat.sub_zero]

theorem lowerEnd_succ : lowerEnd m k + (m / 2 ^ k + 1) / 2 = lowerEnd m (k + 1) := by
  have hhalf : m / 2 ^ (k + 1) = m / 2 ^ k / 2 := by rw [Nat.pow_succ, Nat.div_div_eq_div_mul]
  have hle : m / 2 ^ k ≤ m := Nat.div_le_self m _
  unfold lowerEnd
  omega

theorem gap_eq {e : Nat} (he : m / 2 ^ k = e) : (m : Int) + 1 - lowerEnd m k = e + 1 := by
  have hle : m / 2 ^ k ≤ m := Nat.div_le_self m _
  rw [lowerEnd, he]
  omega

theorem smalletTurn_adjacent (hk : m / 2 ^ k = 0) (mid : Int) :
    smalletTurn a ⟨lowerEnd m k, m + 1, mid⟩ = .ok (.ret m) := by
  unfold smalletTurn
  have hm : lowerEnd m k = m := by rw [lowerEnd, hk, Nat.sub_zero]
  rw [if_pos (by simp [gap_eq hk]), hm]
  rfl

theorem smalletTurn_lower (hlen : a.length = m + 2) (hk : m / 2 ^ k ≠ 0) (hmin : Minimal a (lowerEnd m k))
    (mid : Int) : smalletTurn a ⟨lowerEnd m k, m + 1, mid⟩ =
      .ok (.next ⟨lowerEnd m (k + 1), m + 1, lowerEnd m (k + 1)⟩) := by
  obtain ⟨v, hv, hle⟩ := hmin
  obtain ⟨e, he⟩ : ∃ e, m / 2 ^ k = e := ⟨_, rfl⟩
  have hgap := gap_eq he
  have hmid : (lowerEnd m k : Int) + ((m : Int) + 1 - lowerEnd m k).tdiv 2 = lowerEnd m (k + 1) := by
    rw [hgap, Int.tdiv_eq_ediv_of_nonneg (by omega), ← lowerEnd_succ, he]
    push_cast
    rfl
  have hinside : lowerEnd m (k + 1) ≤ m := Nat.sub_le m _
  obtain ⟨w, hw⟩ := load_inside (a := a) (Int.natCast_nonneg (lowerEnd m (k + 1))) (by omega)
  have hge : v ≤ w := hle w (load_mem hw)
  unfold smalletTurn
  rw [if_neg (by simp only [hgap]; omega)]
  simp only [hmid, hw, hv, ok_bind, ge_iff_le, hge, if_true, pure_ok]

/-! ## The call -/

theorem smalletItem_ok {fuel : Nat} {r : Int} (hne : a ≠ []) : smalletItem fuel (some a) a.length = .ok r ↔
    loop smalletMore (smalletTurn a) fuel ⟨0, a.length - 1, 0⟩ = .ok (.returned r) := by
  have hlen : (a.length : Int) ≠ 0 := by simpa using hne
  simp only [smalletItem, if_neg hlen, bind_ok]
  constructor
  · intro ⟨e, he, hr⟩
    cases e with
    | returned r' => cases hr; exact he
    | left t => exact absurd he (loop_not_left (fun _ => rfl) fun _ => smalletTurn_no_break)
  · intro h
    exact ⟨_, h, rfl⟩

/-- One number: the ends never become adjacent. -/
theorem smalletItem_one_forever (v : Int) {P : Int → Prop} :
    ¬ Returns (fun fuel => smalletItem fuel (some [v]) [v].length) P := by
  intro h
  obtain ⟨fuel, r, hr, -⟩ := h.elim
  have hloop := (smalletItem_ok (by simp)).mp hr
  rw [loop_forever (I := (· = ⟨0, 0, 0⟩)) (fun s hs => ?_) rfl] at hloop
  · cases hloop
  · subst hs
    exact ⟨rfl, _, by simp [smalletTurn, load], rfl⟩

/-- Every turn comes to a smallest number: the last of them is returned. -/
theorem smalletItem_finds (hlen : a.length = m + 2) (hmin : ∀ k, Minimal a (lowerEnd m k)) :
    FindsMinimum a := by
  refine ⟨m + 2, fun fuel hfuel => ⟨m, ?_, lowerEnd_last (m := m) ▸ hmin m⟩⟩
  refine (smalletItem_ok (by intro h; simp [h] at hlen)).mpr ?_
  refine loop_ends (I := fun j s => ∃ k mid, s = ⟨lowerEnd m k, m + 1, mid⟩ ∧ m / 2 ^ k = j) (fun j s hs => ?_)
    (k := m) ⟨0, 0, ?_, by simp⟩ (by omega)
  · obtain ⟨k, mid, rfl, rfl⟩ := hs
    right
    refine ⟨rfl, ?_⟩
    by_cases hk : m / 2 ^ k = 0
    · exact ⟨_, smalletTurn_adjacent hk mid, rfl⟩
    · refine ⟨_, smalletTurn_lower hlen hk (hmin k) mid, _, ⟨k + 1, _, rfl, rfl⟩, ?_⟩
      rw [Nat.pow_succ, ← Nat.div_div_eq_div_mul]
      exact Nat.div_lt_self (Nat.pos_of_ne_zero hk) (by decide)
  · rw [hlen, lowerEnd_zero]
    congr 1
    omega

/-- Otherwise it ends at a number too large, or not at all. -/
theorem minimal_of_finds (hlen : a.length = m + 2) (h : FindsMinimum a) (k : Nat) :
    Minimal a (lowerEnd m k) := by
  obtain ⟨fuel, r, hr, w, hw, hle⟩ := h.elim
  have hstart := (smalletItem_ok (by intro h; simp [h] at hlen)).mp hr
  -- the number at the lower end is never larger than the smallest one
  have hend : ∀ {k n : Nat} {mid : Int},
      loop smalletMore (smalletTurn a) n ⟨lowerEnd m k, m + 1, mid⟩ = .ok (.returned r) →
      Minimal a (lowerEnd m k) := by
    intro k n mid hloop
    have hinside : lowerEnd m k ≤ m := Nat.sub_le m _
    obtain ⟨v, hv⟩ := load_inside (a := a) (Int.natCast_nonneg (lowerEnd m k)) (by omega)
    obtain ⟨w', hw', hvw⟩ := returned_ge hloop hv
    obtain rfl := Except.ok.inj (hw.symm.trans hw')
    exact ⟨v, hv, fun u hu => Int.le_trans hvw (hle u hu)⟩
  have hturns : ∃ n mid, loop smalletMore (smalletTurn a) n ⟨lowerEnd m k, m + 1, mid⟩ = .ok (.returned r) := by
    induction k with
    | zero =>
      refine ⟨fuel, 0, ?_⟩
      rw [← hstart, hlen, lowerEnd_zero]
      congr 2
      omega
    | succ k ih =>
      obtain ⟨n, mid, hloop⟩ := ih
      by_cases hk : m / 2 ^ k = 0
      · have hsame : lowerEnd m (k + 1) = lowerEnd m k := by rw [← lowerEnd_succ, hk]; rfl
        exact ⟨n, mid, hsame ▸ hloop⟩
      · obtain ⟨n', rfl, -, -⟩ := loop_returned hloop
        rw [loop_next (c := smalletMore) rfl (smalletTurn_lower hlen hk (hend hloop) mid)] at hloop
        exact ⟨n', _, hloop⟩
  obtain ⟨n, mid, hloop⟩ := hturns
  exact hend hloop

/-- **`smalletItem` finds the smallest number** of an array of at least two
whose smallest number stands at every index the lower end takes. -/
theorem smalletItem_finds_iff (hne : a ≠ []) :
    FindsMinimum a ↔ 2 ≤ a.length ∧ ∀ k : Nat, Minimal a (lowerEnd (a.length - 2) k) := by
  constructor
  · intro h
    have hlen : 2 ≤ a.length := by
      match a, hne, h with
      | [v], _, h => exact absurd h (smalletItem_one_forever v)
      | _ :: _ :: _, _, _ => simp
    exact ⟨hlen, minimal_of_finds (m := a.length - 2) (by omega) h⟩
  · intro h
    exact smalletItem_finds (m := a.length - 2) (by omega) h.2

theorem smalletItem_finds_two : FindsMinimum [1, 2] ↔
    2 ≤ [1, 2].length ∧ ∀ k : Nat, Minimal [1, 2] (lowerEnd ([1, 2].length - 2) k) :=
  smalletItem_finds_iff (by simp)

/-- The array of `viewDidLoad`: 5 is returned as the smallest number. -/
def circleA : List Int := [3, 4, 5, 0, 1, 2, 3]

theorem smalletItem_circleA : Rotated circleA ∧ smalletItem 4 (some circleA) 7 = .ok 2 ∧
    ¬ FindsMinimum circleA := by
  refine ⟨⟨[0, 1, 2, 3, 3, 4, 5], 4, by decide, by decide⟩, by decide, fun h => ?_⟩
  obtain ⟨v, hv, hle⟩ := minimal_of_finds (m := 5) rfl h 0
  rw [lowerEnd_zero] at hv
  have h3 : load circleA (0 : Nat) = .ok 3 := by decide
  obtain rfl := Except.ok.inj (h3.symm.trans hv)
  exact absurd (hle 0 (by decide)) (by decide)

end LearningDemo.Sort
