/-
What `partion` does to its range.

The loop gathers the elements not greater than the last one in front of the
others, and the boundary index ends on the last of them (`partion_loop`).
The final exchange is made with that element and not with the one behind it,
so the pivot leaves a smaller or equal element at the end of the range
(`partion_split`); with no such element it leaves the range.
-/
import LearningDemo.Sort
import Mathlib.Data.List.Perm.Basic

namespace LearningDemo.Sort

open Imperative List

/-! ## `swap` and `partion` -/

theorem swap_self {xs ys : List Int} {y i : Int} (hi : i = xs.length) :
    swap (xs ++ y :: ys) i i = .ok (xs ++ y :: ys) := by
  simp only [swap, load_at hi, store_at hi, ok_bind]

theorem swap_at {xs ys zs : List Int} {y z i j : Int} (hi : i = xs.length)
    (hj : j = xs.length + 1 + ys.length) :
    swap (xs ++ y :: (ys ++ z :: zs)) i j = .ok (xs ++ z :: (ys ++ y :: zs)) := by
  have hl : load ((xs ++ y :: ys) ++ z :: zs) j = .ok z := load_at (by simp; omega)
  have hs : store ((xs ++ z :: ys) ++ z :: zs) j y = .ok ((xs ++ z :: ys) ++ y :: zs) :=
    store_at (by simp; omega)
  simp only [List.append_assoc, List.cons_append] at hl hs
  simp only [swap, load_at hi, hl, store_at hi, ok_bind, hs]

theorem swap_at' {xs ys zs : List Int} {y z i j : Int} (hi : i = xs.length)
    (hj : j = xs.length + 1 + ys.length) :
    swap (xs ++ y :: (ys ++ z :: zs)) j i = .ok (xs ++ z :: (ys ++ y :: zs)) := by
  have hl : load ((xs ++ y :: ys) ++ z :: zs) j = .ok z := load_at (by simp; omega)
  have hs : store ((xs ++ y :: ys) ++ z :: zs) j y = .ok ((xs ++ y :: ys) ++ y :: zs) :=
    store_at (by simp; omega)
  simp only [List.append_assoc, List.cons_append] at hl hs
  simp only [swap, load_at hi, hl, hs, store_at hi, ok_bind]

/-- The exchange of a turn: the element `r` goes behind those gathered, and
the greater ones that stood there move one cell on, in some order. -/
theorem swap_boundary {P F T : List Int} {r i j : Int} (G : List Int) (hi : i = P.length + F.length)
    (hj : j = P.length + F.length + G.length) : ∃ G', G'.Perm G ∧
      swap (P ++ (F ++ (G ++ r :: T))) i j = .ok (P ++ ((F ++ [r]) ++ (G' ++ T))) := by
  cases G with
  | nil =>
    obtain rfl : i = j := by simp at hj; omega
    refine ⟨[], List.Perm.refl _, ?_⟩
    have hs : swap ((P ++ F) ++ r :: T) i i = .ok ((P ++ F) ++ r :: T) := swap_self (by simp; omega)
    simpa only [List.append_assoc, List.cons_append, List.nil_append] using hs
  | cons g G =>
    refine ⟨G ++ [g], List.perm_append_singleton g G, ?_⟩
    have hs : swap ((P ++ F) ++ g :: (G ++ r :: T)) i j = .ok ((P ++ F) ++ r :: (G ++ g :: T)) :=
      swap_at (by simp; omega) (by simp at hj ⊢; omega)
    simpa only [List.append_assoc, List.cons_append, List.nil_append] using hs

/-- The loop of `partion`: behind the cells before the range stand those not
greater than the key, in their order, then the greater ones. -/
theorem partion_loop (P S : List Int) (key : Int) : ∀ (R F G : List Int) {j i : Int},
    j = P.length + F.length + G.length → i = P.length + F.length - 1 →
    ∃ G', G'.Perm (G ++ R.filter (key < ·)) ∧
      forTurns (partionTurn key) R.length j (P ++ (F ++ (G ++ (R ++ key :: S))), i) =
        .ok (P ++ ((F ++ R.filter (· ≤ key)) ++ (G' ++ key :: S)),
          P.length + (F.length + (R.filter (· ≤ key)).length) - 1)
  | [], F, G, j, i, _, hi => by
    refine ⟨G, by simp, ?_⟩
    subst hi
    simp [forTurns]
  | r :: R, F, G, j, i, hj, hi => by
    have hl : load (P ++ (F ++ (G ++ r :: (R ++ key :: S)))) j = .ok r := by
      have : load ((P ++ (F ++ G)) ++ r :: (R ++ key :: S)) j = .ok r := load_at (by simp; omega)
      simpa only [List.append_assoc, List.cons_append] using this
    by_cases hr : r ≤ key
    · obtain ⟨G₁, hG₁, hs⟩ := swap_boundary (P := P) (F := F) (T := R ++ key :: S) (r := r) G
        (show i + 1 = P.length + F.length by omega) hj
      have hlen := hG₁.length_eq
      obtain ⟨G', hG', hrun⟩ := partion_loop P S key R (F ++ [r]) G₁
        (j := j + 1) (i := i + 1) (by simp; omega) (by simp; omega)
      refine ⟨G', ?_, ?_⟩
      · have hnot : ¬ key < r := by omega
        simpa [hnot] using hG'.trans (hG₁.append_right _)
      · simp only [List.length_cons, List.cons_append, forTurns, partionTurn, hl, ok_bind, hr, if_true, hs,
          pure_ok]
        rw [hrun]
        simp [hr, Int.add_assoc, Int.add_comm]
    · obtain ⟨G', hG', hrun⟩ := partion_loop P S key R F (G ++ [r])
        (j := j + 1) (i := i) (by simp; omega) hi
      refine ⟨G', ?_, ?_⟩
      · have hlt : key < r := by omega
        simpa [hlt] using hG'
      · simp only [List.length_cons, List.cons_append, forTurns, partionTurn, hl, ok_bind, hr, if_false,
          pure_ok]
        simp only [List.append_assoc, List.cons_append, List.nil_append] at hrun ⊢
        rw [hrun]
        simp [hr]

theorem filter_le_append_lt (key : Int) (M : List Int) :
    M.filter (· ≤ key) ++ M.filter (key < ·) ~ M := by
  have h := List.filter_append_perm (fun x => decide (x ≤ key)) M
  have hnot : (M.filter fun x => !decide (x ≤ key)) = M.filter (key < ·) :=
    List.filter_congr fun x _ => by simp only [← decide_not, Int.not_le]
  rwa [hnot] at h

theorem partion_run {P S : List Int} {key l0 ln : Int} (M : List Int) (hl0 : l0 = P.length)
    (hln : ln = P.length + M.length) :
    ∃ G, G.Perm (M.filter (key < ·)) ∧ partion (P ++ (M ++ key :: S)) l0 ln = (do
      let i : Int := P.length + (M.filter (· ≤ key)).length - 1
      pure (← swap (P ++ (M.filter (· ≤ key) ++ (G ++ key :: S))) ln i, i)) := by
  obtain ⟨G, hG, hrun⟩ := partion_loop P S key M [] []
    (j := l0) (i := l0 - 1) (by simpa using hl0) (by simp; omega)
  refine ⟨G, by simpa using hG, ?_⟩
  have hkey : load (P ++ (M ++ key :: S)) ln = .ok key := by
    have : load ((P ++ M) ++ key :: S) ln = .ok key := load_at (by simp; omega)
    simpa only [List.append_assoc] using this
  have hcount : (ln - l0).toNat = M.length := by omega
  simp only [List.nil_append, List.length_nil, Int.natCast_zero, Int.zero_add] at hrun
  simp only [partion, hkey, ok_bind, forRange, hcount, hrun]

theorem filter_lengths {key : Int} {M G : List Int} (hG : G.Perm (M.filter (key < ·))) :
    M.length = (M.filter (· ≤ key)).length + G.length := by
  have h := (filter_le_append_lt key M).length_eq
  rw [List.length_append, ← hG.length_eq] at h
  exact h.symm

/-- `partion` on a range `M ++ [key]` where some element is not greater than
the key: the key goes to the place of the last such element `e`, and `e` to
the end, behind the greater elements. -/
theorem partion_split {P M S E : List Int} {key e l0 ln : Int} (hl0 : l0 = P.length)
    (hln : ln = P.length + M.length) (hE : M.filter (· ≤ key) = E ++ [e]) :
    ∃ G, G.Perm (M.filter (key < ·)) ∧
      partion (P ++ (M ++ key :: S)) l0 ln =
        .ok (P ++ (E ++ key :: (G ++ e :: S)), P.length + E.length) := by
  obtain ⟨G, hG, hrun⟩ := partion_run (S := S) M hl0 hln
  refine ⟨G, hG, ?_⟩
  have hlen := filter_lengths hG
  rw [hE, List.length_append, List.length_singleton] at hlen
  have hi : (P.length : Int) + (E ++ [e]).length - 1 = P.length + E.length := by simp; omega
  have hswap : swap ((P ++ E) ++ e :: (G ++ key :: S)) ln (P.length + E.length) =
      .ok ((P ++ E) ++ key :: (G ++ e :: S)) := swap_at' (by simp) (by simp; omega)
  simp only [List.append_assoc] at hswap
  simp only [hrun, hE, hi, List.append_assoc, List.singleton_append, hswap, ok_bind]
  rfl

theorem partion_perm {M E G : List Int} {key e : Int} (hE : M.filter (· ≤ key) = E ++ [e])
    (hG : G.Perm (M.filter (key < ·))) : E ++ key :: (G ++ [e]) ~ M ++ [key] := by
  have hsplit := filter_le_append_lt key M
  rw [hE] at hsplit
  calc E ++ key :: (G ++ [e])
      _ ~ key :: (E ++ (G ++ [e])) := List.perm_middle
      _ ~ key :: ((E ++ [e]) ++ G) := by
        refine List.Perm.cons key ?_
        rw [List.append_assoc]
        exact (List.perm_append_singleton e G).append_left E
      _ ~ key :: M := ((hG.append_left (E ++ [e])).trans hsplit).cons key
      _ ~ M ++ [key] := (List.perm_append_singleton key M).symm

/-! ## The accesses of a call -/

/-- `swap`, with its way to the cells. -/
def swapBy (m : Access Int) (a : List Int) (i j : Int) : C (List Int) := do
  let temp ← m.load a i
  let a ← m.store a i (← m.load a j)
  m.store a j temp

/-- `partionTurn`, the same. -/
def partionTurnBy (m : Access Int) (key : Int) (j : Int) : List Int × Int → C (List Int × Int)
  | (a, i) => do
    if (← m.load a j) ≤ key then
      let i := i + 1
      pure (← swapBy m a i j, i)
    else pure (a, i)

/-- `partion`, the same. -/
def partionBy (m : Access Int) (a : List Int) (l0 ln : Int) : C (List Int × Int) := do
  let key ← m.load a ln
  let (a, i) ← forRange l0 ln (partionTurnBy m key) (a, l0 - 1)
  pure (← swapBy m a ln i, i)

theorem partionBy_all : partionBy .all = partion := rfl

section Within

variable {l0 ln i j key : Int} {a : List Int}

theorem swapBy_within (hi : l0 ≤ i ∧ i ≤ ln) (hj : l0 ≤ j ∧ j ≤ ln) :
    swapBy (.within l0 ln) a i j = swap a i j := by
  simp only [swapBy, swap, Access.within_load hi, Access.within_load hj, Access.within_store hi,
    Access.within_store hj]

theorem partionTurnBy_within (hj : l0 ≤ j ∧ j ≤ ln) (hi : l0 ≤ i + 1 ∧ i + 1 ≤ ln) :
    partionTurnBy (.within l0 ln) key j (a, i) = partionTurn key j (a, i) := by
  simp only [partionTurnBy, partionTurn, Access.within_load hj, swapBy_within hi hj]

theorem partionTurn_index {r : List Int × Int} (h : partionTurn key j (a, i) = .ok r) :
    r.2 = i ∨ r.2 = i + 1 := by
  simp only [partionTurn, bind_ok] at h
  obtain ⟨v, -, h⟩ := h
  split at h
  · obtain ⟨a', -, h⟩ := bind_ok.mp h
    cases h
    exact .inr rfl
  · cases h
    exact .inl rfl

/-- The boundary stays behind the index of the loop, so every turn keeps to the range. -/
theorem partionLoop_within : ∀ (count : Nat) {j i : Int} {a : List Int}, l0 ≤ j → j + count ≤ ln →
    l0 - 1 ≤ i → i < j →
    forTurns (partionTurnBy (.within l0 ln) key) count j (a, i) = forTurns (partionTurn key) count j (a, i)
  | 0, _, _, _, _, _, _, _ => rfl
  | count + 1, j, i, a, hj, hend, hi, hij => by
    have hsame : partionTurnBy (.within l0 ln) key j (a, i) = partionTurn key j (a, i) :=
      partionTurnBy_within (by omega) (by omega)
    simp only [forTurns, hsame]
    cases hturn : partionTurn key j (a, i) with
    | error e => rfl
    | ok r =>
      have hr := partionTurn_index hturn
      exact partionLoop_within count (by omega) (by omega) (by omega) (by omega)

theorem partionBy_within {q : Int} {a' : List Int} (hle : l0 ≤ ln) (h : partion a l0 ln = .ok (a', q))
    (hq : l0 ≤ q ∧ q ≤ ln) : partionBy (.within l0 ln) a l0 ln = .ok (a', q) := by
  simp only [partion, bind_ok] at h
  obtain ⟨key, hkey, ⟨b, i⟩, hloop, b', hswap, h⟩ := h
  cases h
  have hrun : forRange l0 ln (partionTurnBy (.within l0 ln) key) (a, l0 - 1) = .ok (b, i) := by
    rw [forRange, partionLoop_within _ (Int.le_refl l0) (by omega) (Int.le_refl _) (by omega)]
    exact hloop
  have hlast : l0 ≤ ln ∧ ln ≤ ln := ⟨hle, Int.le_refl ln⟩
  simp only [partionBy, Access.within_load hlast, hkey, hrun, swapBy_within hlast hq, hswap, ok_bind]
  rfl

end Within

/-! ## What a call is for -/

/-- The cells from `l0` to `ln`. -/
def segment (a : List Int) (l0 ln : Int) : List Int := (a.drop l0.toNat).take (ln + 1 - l0).toNat

/-- The array and the index after a call, with the last cell of the range at
the index, the greater cells behind it (up to `upto`) and no greater one in front. -/
structure Splits (a : List Int) (l0 ln upto : Int) (r : List Int × Int) : Prop where
  index : l0 ≤ r.2 ∧ r.2 ≤ ln
  range : segment r.1 l0 ln ~ segment a l0 ln
  rest : ∀ k, k < l0 ∨ ln < k → load r.1 k = load a k
  pivot : load r.1 r.2 = load a ln
  before : ∀ k v w, l0 ≤ k → k < r.2 → load r.1 k = .ok v → load r.1 r.2 = .ok w → v ≤ w
  after : ∀ k v w, r.2 < k → k ≤ upto → load r.1 k = .ok v → load r.1 r.2 = .ok w → w < v

/-- A call returns, without an access outside its range, and has split it. -/
def SplitsRange (a : List Int) (l0 ln upto : Int) : Prop :=
  ∃ r, partion a l0 ln = .ok r ∧ partionBy (.within l0 ln) a l0 ln = .ok r ∧ Splits a l0 ln upto r

theorem range_split {a : List Int} {l0 ln : Int} (h0 : 0 ≤ l0) (hle : l0 ≤ ln) (hlt : ln < a.length) :
    ∃ P M key S, a = P ++ (M ++ key :: S) ∧ l0 = P.length ∧ ln = P.length + M.length := by
  obtain ⟨key, hkey⟩ := load_inside (a := a) (show 0 ≤ ln by omega) hlt
  obtain ⟨xs, S, rfl, hln⟩ := load_split hkey
  refine ⟨xs.take l0.toNat, xs.drop l0.toNat, key, S, ?_, ?_, ?_⟩
  · rw [← List.append_assoc, List.take_append_drop]
  · rw [List.length_take]; omega
  · rw [List.length_take, List.length_drop]; omega

theorem segment_between {P X S : List Int} {l0 ln : Int} (hl0 : l0 = P.length)
    (hln : ln + 1 = P.length + X.length) : segment (P ++ (X ++ S)) l0 ln = X := by
  have hcount : (ln + 1 - l0).toNat = X.length := by omega
  rw [segment, hcount, hl0, Int.toNat_natCast, List.drop_left, List.take_left]

theorem partion_index_out {P M S : List Int} {key l0 ln : Int} {r : List Int × Int} (hl0 : l0 = P.length)
    (hln : ln = P.length + M.length) (hF : M.filter (· ≤ key) = [])
    (h : partion (P ++ (M ++ key :: S)) l0 ln = .ok r) : r.2 = l0 - 1 := by
  obtain ⟨G, -, hrun⟩ := partion_run (S := S) M hl0 hln
  rw [hrun, hF] at h
  obtain ⟨a', -, h⟩ := bind_ok.mp h
  cases h
  simp only [List.length_nil]
  omega

theorem splits_before_last {P M S E G : List Int} {key e l0 ln : Int} (hl0 : l0 = P.length)
    (hln : ln = P.length + M.length) (hE : M.filter (· ≤ key) = E ++ [e]) (hG : G.Perm (M.filter (key < ·))) :
    Splits (P ++ (M ++ key :: S)) l0 ln (ln - 1) (P ++ (E ++ key :: (G ++ e :: S)), P.length + E.length) := by
  have hlen := filter_lengths hG
  rw [hE, List.length_append, List.length_singleton] at hlen
  have hold : P ++ (M ++ key :: S) = P ++ ((M ++ [key]) ++ S) := by simp
  have hnew : P ++ (E ++ key :: (G ++ e :: S)) = P ++ ((E ++ key :: (G ++ [e])) ++ S) := by simp
  have hperm := partion_perm hE hG
  have hpivot : load (P ++ (E ++ key :: (G ++ e :: S))) (P.length + E.length) = .ok key := by
    have : load ((P ++ E) ++ key :: (G ++ e :: S)) (P.length + E.length) = .ok key := load_at (by simp)
    simpa only [List.append_assoc] using this
  exact {
    index := by constructor <;> simp only <;> omega
    range := by
      show segment (P ++ (E ++ key :: (G ++ e :: S))) l0 ln ~ segment (P ++ (M ++ key :: S)) l0 ln
      rw [hold, hnew, segment_between hl0 (by simp; omega), segment_between hl0 (by simp; omega)]
      exact hperm
    rest := fun k hk => by
      show load (P ++ (E ++ key :: (G ++ e :: S))) k = load (P ++ (M ++ key :: S)) k
      rw [hold, hnew]
      exact load_outside hperm.length_eq (by simp; omega)
    pivot := by
      have hkey : load ((P ++ M) ++ key :: S) ln = .ok key := load_at (by simp; omega)
      rw [List.append_assoc] at hkey
      exact hpivot.trans hkey.symm
    before := fun k v w hk hkq hv hw => by
      obtain rfl := Except.ok.inj (hpivot.symm.trans hw)
      have hmem : v ∈ E := load_mem_between (by omega) (by simpa using hkq) hv
      have hfilter : v ∈ M.filter (· ≤ key) := by rw [hE]; exact List.mem_append_left _ hmem
      simpa using (List.mem_filter.mp hfilter).2
    after := fun k v w hqk hk hv hw => by
      obtain rfl := Except.ok.inj (hpivot.symm.trans hw)
      have hq : (P.length : Int) + E.length < k := hqk
      have hload : load ((P ++ (E ++ [key])) ++ (G ++ e :: S)) k = .ok v := by simpa using hv
      have hmem : v ∈ G := load_mem_between (by simp; omega) (by simp; omega) hload
      simpa using (List.mem_filter.mp (hG.mem_iff.mp hmem)).2 }

/-- What a call does get right, and when: with an element that is not greater
than the last one it keeps to its range and splits it, but for the last cell. -/
theorem partion_splits_before_last_iff {P M S : List Int} {key l0 ln : Int} (hl0 : l0 = P.length)
    (hln : ln = P.length + M.length) :
    SplitsRange (P ++ (M ++ key :: S)) l0 ln (ln - 1) ↔ ∃ x ∈ M, x ≤ key := by
  rcases List.eq_nil_or_concat (M.filter (· ≤ key)) with hF | ⟨E, e, hE⟩
  · refine iff_of_false ?_ ?_
    · rintro ⟨r, hr, -, hsplits⟩
      have hindex := hsplits.index
      have hout := partion_index_out hl0 hln hF hr
      omega
    · intro ⟨x, hx, hle⟩
      have hmem : x ∈ M.filter (· ≤ key) := List.mem_filter.mpr ⟨hx, by simpa using hle⟩
      rw [hF] at hmem
      cases hmem
  · rw [List.concat_eq_append] at hE
    have he : e ∈ M.filter (· ≤ key) := by simp [hE]
    refine iff_of_true ?_ ⟨e, (List.mem_filter.mp he).1, by simpa using (List.mem_filter.mp he).2⟩
    obtain ⟨G, hG, hrun⟩ := partion_split (S := S) hl0 hln hE
    have hsplits := splits_before_last (S := S) hl0 hln hE hG
    exact ⟨_, hrun, partionBy_within (by omega) hrun hsplits.index, hsplits⟩

/-- **`partion` never splits its range**: if the index returned is in it, a
cell behind the index, the last one, is not greater than the pivot. -/
theorem partion_never_splits {a : List Int} {l0 ln : Int} (h0 : 0 ≤ l0) (hle : l0 ≤ ln) (hlt : ln < a.length) :
    ¬ SplitsRange a l0 ln ln := by
  obtain ⟨P, M, key, S, rfl, hl0, hln⟩ := range_split h0 hle hlt
  rintro ⟨r, hr, -, hsplits⟩
  rcases List.eq_nil_or_concat (M.filter (· ≤ key)) with hF | ⟨E, e, hE⟩
  · have hindex := hsplits.index
    have hout := partion_index_out hl0 hln hF hr
    omega
  · rw [List.concat_eq_append] at hE
    obtain ⟨G, hG, hrun⟩ := partion_split (S := S) hl0 hln hE
    obtain rfl := Except.ok.inj (hrun.symm.trans hr)
    have hlen := filter_lengths hG
    rw [hE, List.length_append, List.length_singleton] at hlen
    have hlast : load ((P ++ E ++ key :: G) ++ e :: S) ln = .ok e := load_at (by simp; omega)
    have hpivot : load ((P ++ E) ++ key :: (G ++ e :: S)) (P.length + E.length) = .ok key :=
      load_at (by simp)
    simp only [List.append_assoc, List.cons_append] at hlast hpivot
    have hgreater := hsplits.after ln e key (by show (P.length : Int) + E.length < ln; omega) (Int.le_refl ln)
      hlast hpivot
    have he : e ∈ M.filter (· ≤ key) := by simp [hE]
    have hek : e ≤ key := by simpa using (List.mem_filter.mp he).2
    omega

/-- The array the view controller sorts when it is loaded. -/
theorem partion_never_splits_sample : ¬ SplitsRange [1, 3, 5, 4, 2, 8] 0 5 5 :=
  partion_never_splits (by decide) (by decide) (by decide)

/-- Two cells in order are exchanged: the smaller one stands behind the pivot. -/
theorem partion_two_not_split : ¬ ∀ (a : List Int) (l0 ln : Int), 0 ≤ l0 → l0 ≤ ln → ln < a.length →
    SplitsRange a l0 ln ln := by
  intro h
  obtain ⟨r, hr, -, hsplits⟩ := h [1, 2] 0 1 (by decide) (by decide) (by decide)
  obtain rfl : ([2, 1], 0) = r := Except.ok.inj hr
  have hgreater : (2 : Int) < 1 := hsplits.after 1 1 2 (by decide) (by decide) rfl rfl
  exact absurd hgreater (by decide)

end LearningDemo.Sort
