/-
What `quickSort` does, over every array.

Its guard compares the end elements and `partion` exchanges the pivot with
the last element that is not greater (not with the first greater one), so a
call sorts only what is sorted already and has its larger values in pairs:
`quickSort_sorts_iff`. A sub-range is named by the cells before it, in it
and after it (`P ++ X ++ S`); `quickSort_turn` says once what a call with a
true guard does to them, and both directions follow from it by induction.
-/
import LearningDemo.PartionFacts
import Mathlib.Algebra.Group.Nat.Even

namespace LearningDemo.Sort

open Imperative List

/-! ## Empty ranges -/

/-- A call on `l .. l - 2` whose two cells before `l` are greater than the
one at `l` never returns: each turn exchanges the two and calls itself. -/
theorem quickSort_below_two {x y z : Int} {xs ys r : List Int} {l : Int} (hl : l = xs.length + 2) :
    ∀ {n : Nat}, x < y → x < z → quickSort n (xs ++ z :: y :: x :: ys) l (l - 2) ≠ .ok r := by
  intro n
  induction n generalizing y z r with
  | zero => intro _ _ h; cases h
  | succ n ih =>
    intro hy hz h
    have h0 : load (xs ++ z :: y :: x :: ys) l = .ok x := by
      have : load ((xs ++ [z, y]) ++ x :: ys) l = .ok x := load_at (by simp; omega)
      simpa using this
    have h2 : load (xs ++ z :: y :: x :: ys) (l - 2) = .ok z := load_at (by omega)
    have hp : partion (xs ++ z :: y :: x :: ys) l (l - 2) =
        .ok (xs ++ y :: z :: x :: ys, l - 1) := by
      have hs : swap (xs ++ z :: ([] ++ y :: (x :: ys))) (l - 2) (l - 1) =
          .ok (xs ++ y :: ([] ++ z :: (x :: ys))) := swap_at (by omega) (by simp; omega)
      simp only [List.nil_append] at hs
      simp only [partion, h2, ok_bind, forRange_empty (show l - 2 ≤ l by omega), hs]
      rfl
    simp only [quickSort, h0, h2, ok_bind, hz, if_true, hp, bind_ok] at h
    obtain ⟨a, ha, -⟩ := h
    rw [show l - 1 - 1 = l - 2 by omega] at ha
    exact ih hz hy ha

theorem quickSort_below {x y : Int} {xs ys : List Int} {l : Int} (hl : l = xs.length + 1) (hxy : x < y) :
    ∀ {n : Nat} {r : List Int}, quickSort n (xs ++ y :: x :: ys) l (l - 1) ≠ .ok r := by
  intro n
  induction n with
  | zero => intro r h; cases h
  | succ n ih =>
    intro r h
    have h0 : load (xs ++ y :: x :: ys) l = .ok x := by
      have : load ((xs ++ [y]) ++ x :: ys) l = .ok x := load_at (by simp; omega)
      simpa using this
    have h1 : load (xs ++ y :: x :: ys) (l - 1) = .ok y := load_at (by omega)
    have hp : partion (xs ++ y :: x :: ys) l (l - 1) = .ok (xs ++ y :: x :: ys, l - 1) := by
      simp only [partion, h1, ok_bind, forRange_empty (show l - 1 ≤ l by omega),
        swap_self (show l - 1 = xs.length by omega)]
      rfl
    simp only [quickSort, h0, h1, ok_bind, hxy, if_true, hp, bind_ok] at h
    obtain ⟨a, ha, h⟩ := h
    rw [show l - 1 - 1 = l - 2 by omega] at ha
    rw [show l - 1 + 1 = l by omega] at h
    have hsame : a = xs ++ y :: x :: ys := by
      cases n with
      | zero => cases ha
      | succ n =>
        rcases xs.eq_nil_or_concat with rfl | ⟨xs, z, rfl⟩
        · simp only [quickSort, h0, ok_bind, load_neg _ (show l - 2 < 0 by simp at hl; omega),
            error_bind] at ha
          cases ha
        · simp only [List.concat_eq_append, List.append_assoc, List.cons_append, List.nil_append] at ha h0 ⊢
          by_cases hz : x < z
          · exact absurd ha (quickSort_below_two (by simp at hl; omega) hxy hz)
          · have h2 : load (xs ++ z :: y :: x :: ys) (l - 2) = .ok z :=
              load_at (by simp at hl; omega)
            simp only [quickSort, h0, h2, ok_bind, hz, if_false, pure_ok] at ha
            cases ha
            rfl
    rw [hsame] at h
    exact ih h

theorem quickSort_empty {n : Nat} {a r : List Int} {l al : Int} (hal : al = l - 1)
    (h : quickSort n a l al = .ok r) : r = a := by
  subst hal
  cases n with
  | zero => cases h
  | succ n =>
    have h' := h
    simp only [quickSort, bind_ok] at h'
    obtain ⟨x, hx, y, hy, h'⟩ := h'
    by_cases hxy : x < y
    · obtain ⟨xs, ys, rfl, hl⟩ := load_split hy
      cases ys with
      | nil =>
        obtain ⟨-, hg⟩ := load_ok.mp hx
        rw [List.getElem?_eq_none (by simp; omega)] at hg
        cases hg
      | cons x' ys =>
        have hx' : load (xs ++ y :: x' :: ys) l = .ok x' := by
          have : load ((xs ++ [y]) ++ x' :: ys) l = .ok x' := load_at (by simp; omega)
          simpa using this
        rw [hx] at hx'
        cases hx'
        exact absurd h (quickSort_below (by omega) hxy)
    · simp only [hxy, if_false, pure_ok] at h'
      cases h'
      rfl

/-! ## One call -/

theorem load_key {P M S : List Int} {x key : Int} {al : Int} (hal : al = P.length + M.length + 1) :
    load (P ++ (x :: M ++ key :: S)) al = .ok key := by
  have hat : load ((P ++ x :: M) ++ key :: S) al = .ok key := load_at (by simp; omega)
  simpa only [List.append_assoc, List.cons_append] using hat

theorem quickSort_stop {P M S : List Int} {x key : Int} {n : Nat} {a0 al : Int}
    (ha0 : a0 = P.length) (hal : al = P.length + M.length + 1) (h : ¬ x < key) :
    quickSort (n + 1) (P ++ (x :: M ++ key :: S)) a0 al = .ok (P ++ (x :: M ++ key :: S)) := by
  have hx : load (P ++ (x :: M ++ key :: S)) a0 = .ok x := load_at ha0
  have hk : load (P ++ (x :: M ++ key :: S)) al = .ok key := load_key hal
  simp only [quickSort, hx, hk, ok_bind, h, if_false, pure_ok]

theorem quickSort_single {P S : List Int} {x : Int} {n : Nat} {a0 al : Int}
    (ha0 : a0 = P.length) (hal : al = P.length) :
    quickSort (n + 1) (P ++ x :: S) a0 al = .ok (P ++ x :: S) := by
  simp only [quickSort, load_at ha0, load_at hal, ok_bind, Int.lt_irrefl, if_false, pure_ok]

/-- A call with a true guard, once `partion` has done its work: `E` and `e`
are the elements before the last that are not greater than it. -/
theorem quickSort_turn {P M S E : List Int} {x key e : Int} {a0 al : Int}
    (ha0 : a0 = P.length) (hal : al = P.length + M.length + 1) (h : x < key)
    (hE : (x :: M).filter (· ≤ key) = E ++ [e]) :
    ∃ G, G.Perm ((x :: M).filter (key < ·)) ∧ M.length = E.length + G.length ∧
      ∀ n, quickSort (n + 1) (P ++ (x :: M ++ key :: S)) a0 al = (do
        let a ← quickSort n (P ++ (E ++ key :: (G ++ e :: S))) a0 (P.length + E.length - 1)
        quickSort n a (P.length + E.length + 1) al) := by
  obtain ⟨G, hG, hp⟩ := partion_split (P := P) (S := S) (M := x :: M) ha0
    (show al = P.length + (x :: M).length by simp; omega) hE
  have hx : load (P ++ (x :: M ++ key :: S)) a0 = .ok x := load_at ha0
  have hk : load (P ++ (x :: M ++ key :: S)) al = .ok key := load_key hal
  refine ⟨G, hG, ?_, fun n => ?_⟩
  · have hlen := filter_lengths hG
    rw [hE] at hlen
    simp only [List.length_append, List.length_cons, List.length_nil] at hlen
    omega
  · simp only [quickSort, hx, hk, ok_bind, h, if_true, hp]

theorem exists_last_le {x key : Int} {M : List Int} (h : x < key) :
    ∃ E e, (x :: M).filter (· ≤ key) = E ++ [e] ∧ e ≤ key ∧ (E = [] ∨ ∃ E', E = x :: E') := by
  have hx : x ≤ key := Int.le_of_lt h
  rcases List.eq_nil_or_concat (M.filter (· ≤ key)) with hM | ⟨E, e, hM⟩
  · exact ⟨[], x, by simp [hx, hM], hx, .inl rfl⟩
  · rw [List.concat_eq_append] at hM
    have he : e ∈ M.filter (· ≤ key) := by simp [hM]
    exact ⟨x :: E, e, by simp [hx, hM], by simpa using (List.mem_filter.mp he).2, .inr ⟨E, rfl⟩⟩

/-! ## Whole runs -/

theorem range_cases (X : List Int) :
    X = [] ∨ (∃ x, X = [x]) ∨ ∃ x M key, X = x :: M ++ [key] := by
  rcases X with _ | ⟨x, X⟩
  · exact .inl rfl
  · rcases List.eq_nil_or_concat X with rfl | ⟨M, key, rfl⟩
    · exact .inr (.inl ⟨x, rfl⟩)
    · exact .inr (.inr ⟨x, M, key, by simp⟩)

/-- A call that returns has permuted its range and left the rest alone. -/
theorem quickSort_range : ∀ {n : Nat} {P X S r : List Int} {a0 al : Int},
    a0 = P.length → al = P.length + X.length - 1 →
    quickSort n (P ++ (X ++ S)) a0 al = .ok r → ∃ X', X'.Perm X ∧ r = P ++ (X' ++ S) := by
  intro n
  induction n with
  | zero => intro P X S r a0 al _ _ h; cases h
  | succ n ih =>
    intro P X S r a0 al ha0 hal h
    rcases range_cases X with rfl | ⟨x, rfl⟩ | ⟨x, M, key, rfl⟩
    · exact ⟨[], List.Perm.refl _, quickSort_empty (by simp at hal; omega) h⟩
    · rw [List.singleton_append, quickSort_single ha0 (by simp at hal; omega)] at h
      cases h
      exact ⟨[x], List.Perm.refl _, rfl⟩
    · simp only [List.append_assoc, List.cons_append, List.nil_append] at h
      have hal' : al = P.length + M.length + 1 := by simp at hal; omega
      by_cases hlt : x < key
      · obtain ⟨E, e, hE, -, -⟩ := exists_last_le (M := M) hlt
        obtain ⟨G, hG, hlen, hturn⟩ := quickSort_turn (S := S) ha0 hal' hlt hE
        rw [← List.cons_append, hturn n, bind_ok] at h
        obtain ⟨a, hl, hr⟩ := h
        obtain ⟨E', hE', rfl⟩ := ih ha0 (by omega) hl
        have hlE := hE'.length_eq
        have hr' : quickSort n ((P ++ (E' ++ [key])) ++ ((G ++ [e]) ++ S)) (P.length + E.length + 1) al =
            .ok r := by simpa using hr
        obtain ⟨R, hR, rfl⟩ := ih (by simp; omega) (by simp; omega) hr'
        refine ⟨E' ++ key :: R, ?_, by simp⟩
        calc E' ++ key :: R
            _ ~ E ++ key :: (G ++ [e]) := hE'.append (hR.cons key)
            _ ~ x :: M ++ [key] := partion_perm hE hG
      · rw [← List.cons_append, quickSort_stop ha0 hal' hlt] at h
        cases h
        exact ⟨x :: M ++ [key], List.Perm.refl _, by simp⟩

/-! ## When a run sorts -/

/-- Nondecreasing, with every value but the smallest (the first) there an
even number of times. -/
def PairedAscending (X : List Int) : Prop :=
  X.Pairwise (· ≤ ·) ∧ ∀ x ∈ X, X.head? ≠ some x → Even (X.count x)

theorem PairedAscending.snoc {x key : Int} {E : List Int} (h : PairedAscending (x :: E))
    (hle : ∀ y ∈ x :: E, y ≤ key) : PairedAscending (x :: E ++ [key, key]) := by
  refine ⟨List.pairwise_append.mpr ⟨h.1, by simp, ?_⟩, fun y hy hne => ?_⟩
  · intro y hy z hz
    simp only [List.mem_cons, List.not_mem_nil, or_false, or_self] at hz
    exact hz ▸ hle y hy
  · have hne' : (x :: E).head? ≠ some y := by simpa using hne
    have hE : Even ((x :: E).count y) := by
      by_cases hmem : y ∈ x :: E
      · exact h.2 y hmem hne'
      · simp [List.count_eq_zero_of_not_mem hmem]
    rw [List.count_append]
    refine hE.add ?_
    by_cases hky : key = y
    · subst hky; simp only [List.count_cons_self, List.count_nil]; decide
    · simp [hky]

theorem PairedAscending.unsnoc {x key : Int} {M : List Int} (h : PairedAscending (x :: M ++ [key]))
    (hlt : x < key) : ∃ E, M = E ++ [key] ∧ PairedAscending (x :: E) ∧ ∀ y ∈ x :: E, y ≤ key := by
  obtain ⟨hsorted, heven⟩ := h
  obtain ⟨hM, -, hle⟩ := List.pairwise_append.mp hsorted
  have hle' : ∀ y ∈ x :: M, y ≤ key := fun y hy => hle y hy key (by simp)
  have hcount : Even ((x :: M).count key + 1) := by
    have := heven key (by simp) (by simp; omega)
    rwa [List.count_append, List.count_singleton_self] at this
  rcases List.eq_nil_or_concat M with rfl | ⟨E, l, rfl⟩
  · simp [Int.ne_of_lt hlt] at hcount
  · rw [List.concat_eq_append] at *
    have hmem : key ∈ x :: (E ++ [l]) := by
      rw [← List.count_pos_iff]
      by_contra h0
      simp [show (x :: (E ++ [l])).count key = 0 by omega] at hcount
    have hl : l = key := by
      refine Int.le_antisymm (hle' l (by simp)) ?_
      rw [← List.cons_append] at hM hmem
      obtain ⟨-, -, hEl⟩ := List.pairwise_append.mp hM
      rcases List.mem_append.mp hmem with hk | hk
      · exact hEl key hk l (by simp)
      · simp only [List.mem_singleton] at hk; omega
    subst hl
    refine ⟨E, rfl, ⟨?_, fun y hy hne => ?_⟩, fun y hy => hle' y (by simp at hy ⊢; tauto)⟩
    · rw [← List.cons_append] at hM
      exact (List.pairwise_append.mp hM).1
    · have hy' := heven y (by simp at hy ⊢; tauto) (by simpa using hne)
      by_cases hyl : l = y
      · subst hyl
        simp only [List.cons_append, List.append_assoc, List.count_cons, List.count_append] at hy' ⊢
        simp only [beq_self_eq_true, if_true, List.count_nil] at hy'
        grind
      · simpa [List.count_cons, List.count_append, hyl] using hy'

theorem quickSort_paired : ∀ {n : Nat} {P X S : List Int} {a0 al : Int},
    a0 = P.length → al = P.length + X.length - 1 → X ≠ [] → X.length ≤ n → PairedAscending X →
    quickSort n (P ++ (X ++ S)) a0 al = .ok (P ++ (X ++ S)) := by
  intro n
  induction n with
  | zero => intro P X S a0 al _ _ hX hn; simp at hn; exact absurd hn hX
  | succ n ih =>
    intro P X S a0 al ha0 hal hX hn hp
    rcases range_cases X with rfl | ⟨x, rfl⟩ | ⟨x, M, key, rfl⟩
    · exact absurd rfl hX
    · exact quickSort_single ha0 (by simp at hal; omega)
    · have hal' : al = P.length + M.length + 1 := by simp at hal; omega
      rw [List.append_assoc, List.singleton_append]
      by_cases hlt : x < key
      · obtain ⟨E, rfl, hE, hle⟩ := hp.unsnoc hlt
        have hall : (x :: (E ++ [key])).filter (· ≤ key) = (x :: E) ++ [key] := by
          refine List.filter_eq_self.mpr fun y hy => ?_
          rw [← List.cons_append] at hy
          rcases List.mem_append.mp hy with hy | hy
          · simpa using hle y hy
          · simp only [List.mem_singleton] at hy; simp [hy]
        obtain ⟨G, -, hlen, hturn⟩ := quickSort_turn (S := S) ha0 hal' hlt hall
        have hG0 : G = [] := List.length_eq_zero_iff.mp (by
          simp only [List.length_append, List.length_cons, List.length_nil] at hlen; omega)
        subst hG0
        rw [hturn n, List.nil_append,
          ih (X := x :: E) ha0 (by simp) (by simp) (by simp at hn ⊢; omega) hE, ok_bind]
        obtain ⟨m, rfl⟩ : ∃ m, n = m + 1 := ⟨n - 1, by simp at hn; omega⟩
        have hr : quickSort (m + 1) ((P ++ (x :: E ++ [key])) ++ key :: S)
            (P.length + (x :: E).length + 1) al = .ok ((P ++ (x :: E ++ [key])) ++ key :: S) :=
          quickSort_single (by simp; omega) (by simp at hal' ⊢; omega)
        simpa using hr
      · exact quickSort_stop ha0 hal' hlt

theorem range_cancel (P : List Int) {X Y S : List Int} (h : P ++ (X ++ S) = P ++ (Y ++ S)) : X = Y :=
  List.append_cancel_right (List.append_cancel_left h)

/-- A right call that sorts a range ending on its pivot `e` starts on no
greater element: that would stop the call. -/
theorem quickSort_right_nil {n : Nat} {P G R S : List Int} {e a0 al : Int} (ha0 : a0 = P.length)
    (hal : al = P.length + G.length) (hgt : ∀ g ∈ G, e < g) (hs : R.Pairwise (· ≤ ·))
    (h : quickSort n (P ++ (G ++ e :: S)) a0 al = .ok (P ++ (R ++ S))) : G = [] := by
  cases G with
  | nil => rfl
  | cons g G =>
    have hg : e < g := hgt g (by simp)
    cases n with
    | zero => cases h
    | succ n =>
      have hstop : quickSort (n + 1) (P ++ (g :: G ++ e :: S)) a0 al = .ok (P ++ (g :: G ++ e :: S)) :=
        quickSort_stop ha0 (by simp at hal; omega) (by omega)
      have hsame : P ++ ((g :: G ++ [e]) ++ S) = P ++ (R ++ S) := by
        simpa using Except.ok.inj (hstop.symm.trans h)
      obtain rfl := range_cancel P hsame
      have hge : g ≤ e := List.rel_of_pairwise_cons hs (by simp)
      omega

theorem paired_of_stop {x key : Int} {M : List Int} (hs : (x :: M ++ [key]).Pairwise (· ≤ ·))
    (hlt : ¬ x < key) : PairedAscending (x :: M ++ [key]) := by
  refine ⟨hs, fun y hy hne => absurd ?_ hne⟩
  have hxk : x ≤ key := List.rel_of_pairwise_cons hs (by simp)
  rcases List.mem_append.mp hy with hy' | hy'
  · rcases List.mem_cons.mp hy' with rfl | hyM
    · rfl
    · have h1 : x ≤ y := List.rel_of_pairwise_cons hs (by simp [hyM])
      have h2 := (List.pairwise_append.mp hs).2.2 y hy' key (by simp)
      simp; omega
  · simp only [List.mem_singleton] at hy'
    simp; omega

/-- A call that returns its range in order found it so, its larger values
in pairs. -/
theorem quickSort_sorted : ∀ {n : Nat} {P X X' S : List Int} {a0 al : Int},
    a0 = P.length → al = P.length + X.length - 1 → X' ~ X →
    quickSort n (P ++ (X ++ S)) a0 al = .ok (P ++ (X' ++ S)) → X'.Pairwise (· ≤ ·) →
    PairedAscending X := by
  intro n
  induction n with
  | zero => intro P X X' S a0 al _ _ _ h; cases h
  | succ n ih =>
    intro P X X' S a0 al ha0 hal hperm h hs
    rcases range_cases X with rfl | ⟨x, rfl⟩ | ⟨x, M, key, rfl⟩
    · exact ⟨List.Pairwise.nil, by simp⟩
    · exact ⟨List.pairwise_singleton _ _, by simp⟩
    have hal' : al = P.length + M.length + 1 := by simp at hal; omega
    rw [List.append_assoc, List.singleton_append] at h
    by_cases hlt : x < key
    · obtain ⟨E, e, hE, hek, hEx⟩ := exists_last_le (M := M) hlt
      obtain ⟨G, hG, hlen, hturn⟩ := quickSort_turn (S := S) ha0 hal' hlt hE
      rw [hturn n, bind_ok] at h
      obtain ⟨a, hl, hr⟩ := h
      obtain ⟨E', hE', rfl⟩ := quickSort_range ha0 (by omega) hl
      have hlE := hE'.length_eq
      have hr' : quickSort n ((P ++ (E' ++ [key])) ++ ((G ++ [e]) ++ S)) (P.length + E.length + 1) al =
          .ok (P ++ (X' ++ S)) := by simpa using hr
      obtain ⟨R, hR, hX'⟩ := quickSort_range (by simp; omega) (by simp; omega) hr'
      obtain rfl : X' = E' ++ key :: R := range_cancel P (by simpa using hX')
      obtain ⟨hsE, hsR, -⟩ := List.pairwise_append.mp hs
      have hkR : ∀ y ∈ G ++ [e], key ≤ y := fun y hy => List.rel_of_pairwise_cons hsR (hR.mem_iff.mpr hy)
      have he : e = key := Int.le_antisymm hek (hkR e (by simp))
      subst he
      have hR' : quickSort n ((P ++ (E' ++ [e])) ++ (G ++ e :: S)) (P.length + E.length + 1) al =
          .ok ((P ++ (E' ++ [e])) ++ (R ++ S)) := by simpa using hr'
      have hG0 : G = [] := quickSort_right_nil (by simp; omega) (by simp; omega)
        (fun g hg => by simpa using (List.mem_filter.mp (hG.mem_iff.mp hg)).2) (List.pairwise_cons.mp hsR).2 hR'
      subst hG0
      have hall : x :: M = E ++ [e] := by
        have hnil := List.perm_nil.mp hG.symm
        rw [← hE]
        refine (List.filter_eq_self.mpr fun y hy => ?_).symm
        have hy' := List.filter_eq_nil_iff.mp hnil y hy
        simpa using hy'
      rcases hEx with rfl | ⟨E₁, rfl⟩
      · simp only [List.nil_append, List.cons.injEq] at hall
        omega
      · obtain rfl : M = E₁ ++ [e] := by simpa using hall
        have hpE := ih ha0 (by omega) hE' hl hsE
        have hle : ∀ y ∈ x :: E₁, y ≤ e := by
          intro y hy
          have hmem : y ∈ (x :: (E₁ ++ [e])).filter (· ≤ e) := by
            rw [hE]; exact List.mem_append_left _ hy
          simpa using (List.mem_filter.mp hmem).2
        simpa using hpE.snoc hle
    · rw [quickSort_stop ha0 hal' hlt] at h
      obtain rfl : X' = x :: M ++ [key] := (range_cancel P (by simpa using Except.ok.inj h)).symm
      exact paired_of_stop hs hlt

/-- What a call on the whole array is for: it returns, with every access
inside the array, a nondecreasing permutation of it. -/
def Sorts (a : List Int) : Prop :=
  Returns (fun depth => quickSort depth a 0 (a.length - 1)) (fun r => r.Pairwise (· ≤ ·) ∧ r ~ a)

theorem Sorts.paired {a : List Int} (h : Sorts a) : PairedAscending a := by
  obtain ⟨n, r, hr, hs, hp⟩ := h.elim
  have hr' : quickSort n ([] ++ (a ++ [])) 0 (a.length - 1) = .ok ([] ++ (r ++ [])) := by simpa using hr
  exact quickSort_sorted rfl (by simp) hp hr' hs

/-- **When `quickSort` sorts.** A call on a whole array of at least one cell
sorts it exactly when the array is nondecreasing already and every value but
the smallest occurs an even number of times. -/
theorem quickSort_sorts_iff {a : List Int} (ha : a ≠ []) : Sorts a ↔ PairedAscending a := by
  refine ⟨Sorts.paired, fun h => ⟨a.length, fun depth hd => ⟨a, ?_, h.1, List.Perm.refl a⟩⟩⟩
  have hr : quickSort depth ([] ++ (a ++ [])) 0 (a.length - 1) = .ok ([] ++ (a ++ [])) :=
    quickSort_paired rfl (by simp) ha hd h
  simpa using hr

theorem quickSort_sorts_paired : Sorts [1, 2, 2, 5, 5] :=
  (quickSort_sorts_iff (by decide)).mpr ⟨by decide, by decide⟩

/-- The array the view controller sorts when it is loaded. -/
theorem quickSort_sample_unsorted : ¬ Sorts [1, 3, 5, 4, 2, 8] := by
  intro h
  exact absurd h.paired.1 (by decide)

/-- What that call leaves instead. -/
example : quickSort 3 [1, 3, 5, 4, 2, 8] 0 5 = .ok [1, 4, 5, 3, 8, 2] := rfl

end LearningDemo.Sort
