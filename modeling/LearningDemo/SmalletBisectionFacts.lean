/-
The bisection of `smalletItem` in a rotated array.

Such an array falls, once, between two runs that rise (`Broken`). The lower
end stays in the run before the break and the upper end behind it
(`Straddles`), so a turn always moves one of them, and the ends become
adjacent only at the break (`bisection_turn`, `bisection_end`). The index
that is then returned is the one of the largest number.
-/
import LearningDemo.SmalletItemFacts

namespace LearningDemo.Sort

open Imperative

variable {a : List Int} {s : Bisection} {p : Int}

/-- `a[i]` is a largest number of the array. -/
def Maximal (a : List Int) (i : Int) : Prop := ∃ v, load a i = .ok v ∧ ∀ w ∈ a, w ≤ v

/-- The numbers rise up to the index `p`, fall there below all of them, and rise again. -/
structure Broken (a : List Int) (p : Int) : Prop where
  front : 0 < p
  back : p < a.length
  upper : ∀ {i j v w : Int}, i ≤ j → j < p → load a i = .ok v → load a j = .ok w → v ≤ w
  lower : ∀ {i j v w : Int}, p ≤ i → i ≤ j → load a i = .ok v → load a j = .ok w → v ≤ w
  fall : ∀ {i j v w : Int}, i < p → p ≤ j → load a i = .ok v → load a j = .ok w → w < v

/-- The break lies between the two ends. -/
structure Straddles (a : List Int) (p : Int) (s : Bisection) : Prop where
  inside : 0 ≤ s.index1
  before : s.index1 < p
  behind : p ≤ s.index2
  within : s.index2 < a.length

/-! ## Where the break of a rotated array is -/

theorem load_le {b : List Int} (hb : b.Pairwise (· < ·)) {i j v w : Int} (hij : i ≤ j)
    (hv : load b i = .ok v) (hw : load b j = .ok w) : v ≤ w := by
  obtain ⟨hi, hv⟩ := load_ok.mp hv
  obtain ⟨hj, hw⟩ := load_ok.mp hw
  obtain ⟨hi', rfl⟩ := List.getElem?_eq_some_iff.mp hv
  obtain ⟨hj', rfl⟩ := List.getElem?_eq_some_iff.mp hw
  rcases Nat.lt_or_eq_of_le (show i.toNat ≤ j.toNat by omega) with hlt | heq
  · exact Int.le_of_lt (List.pairwise_iff_getElem.mp hb _ _ hi' hj' hlt)
  · simp only [heq, Int.le_refl]

/-- The front of an array in order, moved to the back, is what comes behind the break. -/
theorem rotate_broken {b : List Int} {k : Nat} (hb : b.Pairwise (· < ·)) (hpos : 1 ≤ k) (hk : k < b.length) :
    Broken (b.rotate k) (b.length - k) := by
  rw [List.rotate_eq_drop_append_take (Nat.le_of_lt hk)]
  have hp : ((b.drop k).length : Int) = b.length - k := by rw [List.length_drop]; omega
  have hfall : ∀ x ∈ b.drop k, ∀ y ∈ b.take k, y < x := fun x hx y hy => by
    rw [← List.take_append_drop k b] at hb
    exact (List.pairwise_append.mp hb).2.2 y hy x hx
  have hdrop : (b.drop k).Pairwise (· < ·) := hb.sublist (List.drop_sublist k b)
  have htake : (b.take k).Pairwise (· < ·) := hb.sublist (List.take_sublist k b)
  exact {
    front := by omega
    back := by rw [List.length_append, List.length_take]; omega
    upper := fun hij hj hv hw =>
      load_le hdrop hij (load_append_left (by omega) hv) (load_append_left (by omega) hw)
    lower := fun hi hij hv hw =>
      load_le htake (by omega) (load_append_right (by omega) hv) (load_append_right (by omega) hw)
    fall := fun hi hj hv hw =>
      hfall _ (load_mem (load_append_left (by omega) hv)) _ (load_mem (load_append_right (by omega) hw)) }

theorem Broken.maximal (h : Broken a p) : Maximal a (p - 1) := by
  have hfront := h.front
  have hback := h.back
  obtain ⟨v, hv⟩ := load_inside (a := a) (i := p - 1) (by omega) (by omega)
  refine ⟨v, hv, fun w hw => ?_⟩
  obtain ⟨k, hk⟩ := load_of_mem hw
  by_cases hkp : k < p
  · exact h.upper (show k ≤ p - 1 by omega) (by omega) hk hv
  · exact Int.le_of_lt (h.fall (by omega) (by omega) hv hk)

theorem Broken.minimal (h : Broken a p) : Minimal a p := by
  have hfront := h.front
  obtain ⟨v, hv⟩ := load_inside (a := a) (i := p) (by omega) h.back
  refine ⟨v, hv, fun w hw => ?_⟩
  obtain ⟨k, hk⟩ := load_of_mem hw
  by_cases hkp : k < p
  · exact Int.le_of_lt (h.fall hkp (Int.le_refl p) hk hv)
  · exact h.lower (Int.le_refl p) (by omega) hv hk

/-! ## One turn -/

/-- The ends of a whole array. -/
def whole (a : List Int) : Bisection := { index1 := 0, index2 := a.length - 1, mid := 0 }

theorem Broken.ne_nil (h : Broken a p) : a ≠ [] := by
  have hfront := h.front
  have hback := h.back
  intro hnil
  simp only [hnil, List.length_nil] at hback
  omega

theorem Broken.straddles (h : Broken a p) : Straddles a p (whole a) := by
  have hfront := h.front
  have hback := h.back
  exact ⟨Int.le_refl 0, hfront, by show p ≤ a.length - 1; omega, by show (a.length : Int) - 1 < a.length; omega⟩

/-- Adjacent ends are those at the break, and the lower one is returned. -/
theorem bisection_end (hs : Straddles a p s) (hgap : s.index2 - s.index1 = 1) :
    smalletTurn a s = .ok (.ret s.index1) ∧ s.index1 = p - 1 ∧ s.index2 = p := by
  have hbefore := hs.before
  have hbehind := hs.behind
  refine ⟨?_, by omega, by omega⟩
  unfold smalletTurn
  rw [if_pos hgap]
  rfl

/-- Of other ends one moves to the middle, on its side of the break. -/
theorem bisection_turn (h : Broken a p) (hs : Straddles a p s) (hgap : s.index2 - s.index1 ≠ 1) :
    ∃ s', smalletTurn a s = .ok (.next s') ∧ Straddles a p s' ∧
      s'.index2 - s'.index1 < s.index2 - s.index1 := by
  obtain ⟨hinside, hbefore, hbehind, hwithin⟩ := hs
  have hhalf : (s.index2 - s.index1).tdiv 2 = (s.index2 - s.index1) / 2 :=
    Int.tdiv_eq_ediv_of_nonneg (by omega)
  obtain ⟨mid, hmid⟩ : ∃ mid, s.index1 + (s.index2 - s.index1).tdiv 2 = mid := ⟨_, rfl⟩
  have hbetween : s.index1 < mid ∧ mid < s.index2 := by omega
  obtain ⟨v, hv⟩ := load_inside (a := a) hinside (by omega)
  obtain ⟨m, hm⟩ := load_inside (a := a) (i := mid) (by omega) (by omega)
  obtain ⟨w, hw⟩ := load_inside (a := a) (i := s.index2) (by omega) hwithin
  unfold smalletTurn
  rw [if_neg hgap]
  simp only [hmid, hv, hm, hw, ok_bind]
  by_cases hside : mid < p
  · -- in the upper run: not smaller than at the lower end
    have hge : m ≥ v := h.upper (by omega) hside hv hm
    refine ⟨{ s with index1 := mid, mid }, ?_, ⟨by show 0 ≤ mid; omega, hside, hbehind, hwithin⟩, ?_⟩
    · rw [if_pos hge]
      rfl
    · show s.index2 - mid < s.index2 - s.index1
      omega
  · -- in the lower run: smaller than at the lower end, and not larger than at the upper one
    have hlt : m < v := h.fall hbefore (by omega) hv hm
    have hle : m ≤ w := h.lower (by omega) (by omega) hm hw
    have hmid_end : mid < a.length := by omega
    refine ⟨{ s with index2 := mid, mid }, ?_, ⟨hinside, hbefore, by show p ≤ mid; omega, hmid_end⟩, ?_⟩
    · rw [if_neg (by omega), if_pos hle]
      rfl
    · show mid - s.index1 < s.index2 - s.index1
      omega

/-! ## The loop -/

/-- The loop that a call runs comes to an end, at two adjacent cells that hold
the largest and the smallest number, and every turn before the last brings the
ends closer together. -/
structure Converges (a : List Int) : Prop where
  runs : ∀ fuel r, smalletItem fuel (some a) a.length = .ok r ↔
    loop smalletMore (smalletTurn a) fuel (whole a) = .ok (.returned r)
  ends : Returns (fun fuel => loop smalletMore (smalletTurn a) fuel (whole a)) fun e =>
    ∃ s, Heads smalletMore (smalletTurn a) (whole a) s ∧ smalletTurn a s = .ok (.ret s.index1) ∧
      e = .returned s.index1 ∧ s.index2 = s.index1 + 1 ∧ Maximal a s.index1 ∧ Minimal a s.index2
  shrinks : ∀ s, Heads smalletMore (smalletTurn a) (whole a) s → smalletTurn a s = .ok (.ret s.index1) ∨
    ∃ s', smalletTurn a s = .ok (.next s') ∧ s'.index2 - s'.index1 < s.index2 - s.index1

theorem Broken.heads (h : Broken a p) (hs : Heads smalletMore (smalletTurn a) (whole a) s) :
    Straddles a p s := by
  refine hs.invariant (I := Straddles a p) (fun t t' ht _ hturn => ?_) h.straddles
  by_cases hgap : t.index2 - t.index1 = 1
  · rw [(bisection_end ht hgap).1] at hturn
    cases hturn
  · obtain ⟨s', hnext, hs', -⟩ := bisection_turn h ht hgap
    obtain rfl := Flow.next.inj (Except.ok.inj (hnext.symm.trans hturn))
    exact hs'

theorem Broken.converges (h : Broken a p) : Converges a where
  runs fuel r := smalletItem_ok h.ne_nil
  ends := by
    refine ⟨a.length + 1, fun fuel hfuel => ?_⟩
    -- the bound on the turns to come is the distance of the ends
    refine loop_returns (k := a.length - 1)
      (I := fun k s => Heads smalletMore (smalletTurn a) (whole a) s ∧ s.index2 - s.index1 = k)
      (fun k s hs => .inr ⟨rfl, ?_⟩) ⟨.start, ?_⟩ (by omega)
    · obtain ⟨hhead, hk⟩ := hs
      have hstr := h.heads hhead
      by_cases hgap : s.index2 - s.index1 = 1
      · obtain ⟨hret, h1, h2⟩ := bisection_end hstr hgap
        exact ⟨_, hret, s, hhead, hret, rfl, by omega, h1 ▸ h.maximal, h2 ▸ h.minimal⟩
      · obtain ⟨s', hnext, hs', hlt⟩ := bisection_turn h hstr hgap
        have hbefore := hs'.before
        have hbehind := hs'.behind
        exact ⟨_, hnext, (s'.index2 - s'.index1).toNat, ⟨hhead.turn rfl hnext, by omega⟩, by omega⟩
    · have hback := h.back
      have hfront := h.front
      show (a.length : Int) - 1 - 0 = _
      omega
  shrinks s hs := by
    by_cases hgap : s.index2 - s.index1 = 1
    · exact .inl (bisection_end (h.heads hs) hgap).1
    · obtain ⟨s', hnext, -, hlt⟩ := bisection_turn h (h.heads hs) hgap
      exact .inr ⟨s', hnext, hlt⟩

theorem Broken.smalletItem_maximal (h : Broken a p) :
    Returns (fun fuel => smalletItem fuel (some a) a.length) (Maximal a) := by
  obtain ⟨n, hn⟩ := h.converges.ends
  refine ⟨n, fun fuel hfuel => ?_⟩
  obtain ⟨_, he, s, -, -, rfl, -, hmax, -⟩ := hn fuel hfuel
  exact ⟨s.index1, (smalletItem_ok h.ne_nil).mpr he, hmax⟩

/-- **The bisection converges on the break** of an array in order that is
rotated by at least one cell. -/
theorem smalletItem_converges {b : List Int} {k : Nat} (hb : b.Pairwise (· < ·)) (hpos : 1 ≤ k)
    (hk : k < b.length) : Converges (b.rotate k) :=
  (rotate_broken hb hpos hk).converges

theorem smalletItem_converges_five : Converges ([1, 2, 3, 4, 5].rotate 2) :=
  smalletItem_converges (by decide) (by decide) (by decide)

end LearningDemo.Sort
