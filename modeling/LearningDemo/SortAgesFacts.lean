/-
What `sortAges` leaves in the array.

The ages below 99 come out in order at the front, and the rest of the array
is as it was (`sortAges_ok`): the loop that writes back stops before 99,
where the table was not set to 0 either. So the array is sorted when its
ages of 99 are at its end already (`sortAges_sorts_iff`).
-/
import LearningDemo.Sort
import LearningDemo.Lib.Histogram

namespace LearningDemo.Sort

open Imperative Histogram

variable {ages table : List Int} {s : Times}

/-- The ages the table is made for. -/
def Aged (ages : List Int) : Prop := ∀ age ∈ ages, 0 ≤ age ∧ age ≤ oldestAge

/-- The call ends, without leaving the array or the table, and leaves the ages in order. -/
def SortsAges (ages table : List Int) : Prop :=
  ∃ ages' logged, sortAges (some ages) ages.length table = .ok (some ages', logged) ∧
    ages'.Pairwise (· ≤ ·) ∧ ages'.Perm ages

/-! ## The table -/

theorem clear_ok (hlen : table.length = 100) : ∃ t, forRange 0 oldestAge clearTurn table = .ok t ∧
    t.length = 100 ∧ ∀ d, 0 ≤ d → d < oldestAge → load t d = .ok 0 := by
  refine forRange_ok
    (I := fun (j : Int) (t : List Int) => t.length = 100 ∧ ∀ d, 0 ≤ d → d < j → load t d = .ok 0)
    (show (0 : Int) ≤ oldestAge by decide) (fun j t hj hlt ht => ?_) ⟨hlen, fun d h0 hlt => by omega⟩
  obtain ⟨htlen, hzero⟩ := ht
  obtain ⟨t', ht', hlen'⟩ := store_inside (a := t) (v := 0) hj (by unfold oldestAge at hlt; omega)
  refine ⟨t', ht', hlen'.trans htlen, fun d h0 hd => ?_⟩
  rw [load_store ht' d]
  split
  · rfl
  · exact hzero d h0 (by omega)

/-- The table after the ages `seen`, and the smallest of them. -/
structure Counted (seen : List Int) (s : Times) : Prop where
  length : s.timesOfAges.length = 100
  range : 0 ≤ s.smallestAge ∧ s.smallestAge ≤ oldestAge
  smallest : ∀ age ∈ seen, s.smallestAge ≤ age
  times : ∀ d, 0 ≤ d → d < oldestAge → load s.timesOfAges d = .ok (seen.count d : Nat)

theorem Counted.turn {seen rest : List Int} {age : Int} (h : Counted seen s)
    (hages : ages = seen ++ age :: rest) (h0 : 0 ≤ age) (hle : age ≤ oldestAge) {i : Int} (hi : i = seen.length) :
    ∃ s', countTurn ages i s = .ok s' ∧ Counted (seen ++ [age]) s' := by
  have hload : load ages i = .ok age := hages ▸ load_at hi
  have hlt : age < s.timesOfAges.length := by
    have := h.length
    unfold oldestAge at hle
    omega
  obtain ⟨n, hn⟩ := load_inside h0 hlt
  obtain ⟨t, ht, hlen⟩ := store_inside (v := n + 1) h0 hlt
  have hrange := h.range
  obtain ⟨m, hm, hm0, hma, hms⟩ : ∃ m, (if age < s.smallestAge then age else s.smallestAge) = m ∧
      0 ≤ m ∧ m ≤ age ∧ m ≤ s.smallestAge :=
    ⟨_, rfl, by split <;> omega, by split <;> omega, by split <;> omega⟩
  refine ⟨⟨m, t⟩, ?_, hlen.trans h.length, ⟨hm0, Int.le_trans hma hle⟩, ?_, ?_⟩
  · simp only [countTurn, hload, hn, ht, hm, ok_bind, pure_ok]
  · intro age' hmem
    rcases List.mem_append.mp hmem with hmem | hmem
    · exact Int.le_trans hms (h.smallest age' hmem)
    · exact List.mem_singleton.mp hmem ▸ hma
  · intro d hd0 hd
    rw [load_store ht d, List.count_append]
    by_cases hda : d = age
    · subst hda
      have hold := (h.times d hd0 hd).symm.trans hn
      rw [if_pos rfl, ← Except.ok.inj hold]
      simp
    · rw [if_neg hda, h.times d hd0 hd]
      have hnone : [age].count d = 0 := List.count_eq_zero.mpr (by simpa using hda)
      simp [hnone]

theorem count_ok (hages : Aged ages) {t : List Int} {first : Int} (hlen : t.length = 100)
    (hzero : ∀ d, 0 ≤ d → d < oldestAge → load t d = .ok 0) (hfirst : 0 ≤ first ∧ first ≤ oldestAge) :
    ∃ s, forRange 0 ages.length (countTurn ages) ⟨first, t⟩ = .ok s ∧ Counted ages s := by
  have hstart : Counted [] ⟨first, t⟩ := ⟨hlen, hfirst, by simp, fun d h0 hd => hzero d h0 hd⟩
  have hloop : ∃ s, forRange 0 ages.length (countTurn ages) ⟨first, t⟩ = .ok s ∧
      ∃ seen rest, ages = seen ++ rest ∧ (ages.length : Int) = seen.length ∧ Counted seen s := by
    refine forRange_ok (I := fun j s => ∃ seen rest, ages = seen ++ rest ∧ j = seen.length ∧ Counted seen s)
      (Int.natCast_nonneg ages.length) (fun j s _ hlt hs => ?_) ⟨[], ages, rfl, rfl, hstart⟩
    obtain ⟨seen, rest, hsplit, hj, hcounted⟩ := hs
    cases rest with
    | nil =>
      rw [List.append_nil] at hsplit
      rw [hsplit] at hlt
      omega
    | cons age rest =>
      obtain ⟨h0, hle⟩ := hages age (by rw [hsplit]; simp)
      obtain ⟨s', hs', hcounted'⟩ := hcounted.turn hsplit h0 hle hj
      exact ⟨s', hs', seen ++ [age], rest, by simp [hsplit], by simp [hj], hcounted'⟩
  obtain ⟨s, hs, seen, rest, hsplit, hseen, hcounted⟩ := hloop
  have hlen' := congrArg List.length hsplit
  rw [List.length_append] at hlen'
  obtain rfl : rest = [] := List.length_eq_zero_iff.mp (by omega)
  rw [List.append_nil] at hsplit
  exact ⟨s, hs, hsplit ▸ hcounted⟩

/-! ## Writing back -/

/-- The ages below `i`, in order. -/
def agesBelow (i : Nat) : List Int := (List.range i).map fun d : Nat => (d : Int)

/-- The front of the array when the ages below `i` are written. -/
def front (ages : List Int) (i : Nat) : List Int := spread (ages.count ·) (agesBelow i)

theorem mem_agesBelow {i : Nat} {age : Int} : age ∈ agesBelow i ↔ 0 ≤ age ∧ age < i := by
  unfold agesBelow
  rw [List.mem_map]
  constructor
  · intro ⟨d, hd, he⟩
    have := List.mem_range.mp hd
    omega
  · intro h
    exact ⟨age.toNat, List.mem_range.mpr (by omega), by omega⟩

theorem agesBelow_pairwise (i : Nat) : (agesBelow i).Pairwise (· < ·) := by
  refine List.pairwise_map.mpr (List.pairwise_lt_range.imp fun h => ?_)
  omega

theorem agesBelow_nodup (i : Nat) : (agesBelow i).Nodup := (agesBelow_pairwise i).imp fun h => by omega

theorem front_succ (ages : List Int) (i : Nat) :
    front ages (i + 1) = front ages i ++ List.replicate (ages.count (i : Int)) (i : Int) := by
  unfold front agesBelow
  rw [List.range_succ, List.map_append]
  exact spread_snoc

theorem front_perm (ages : List Int) (i : Nat) : (front ages i).Perm (ages.filter (· ∈ agesBelow i)) :=
  spread_perm ages (agesBelow_nodup i)

theorem front_pairwise (ages : List Int) (i : Nat) : (front ages i).Pairwise (· ≤ ·) :=
  spread_pairwise Int.le_refl ((agesBelow_pairwise i).imp Int.le_of_lt)

theorem front_length_le (ages : List Int) (i : Nat) : (front ages i).length ≤ ages.length := by
  rw [(front_perm ages i).length_eq]
  exact List.length_filter_le _ _

/-- Below the smallest age there is none. -/
theorem front_smallest {i : Nat} (h : ∀ age ∈ ages, (i : Int) ≤ age) : front ages i = [] := by
  refine spread_eq_nil fun d hd => List.count_eq_zero.mpr fun hmem => ?_
  have := h d hmem
  have := (mem_agesBelow.mp hd).2
  omega

/-- One age, written so many times over what comes next in the array. -/
theorem write_ok (i : Int) (front rest : List Int) {times : Nat} (h : times ≤ rest.length) :
    forRange 0 times (writeTurn i) ⟨front ++ rest, front.length⟩ =
      .ok ⟨(front ++ List.replicate times i) ++ rest.drop times, (front ++ List.replicate times i).length⟩ := by
  have hloop : ∃ s, forRange 0 times (writeTurn i) ⟨front ++ rest, front.length⟩ = .ok s ∧
      s = ⟨(front ++ List.replicate (times : Int).toNat i) ++ rest.drop (times : Int).toNat,
        (front ++ List.replicate (times : Int).toNat i).length⟩ := by
    refine forRange_ok
      (I := fun (j : Int) (s : Adjusting) => s = ⟨(front ++ List.replicate j.toNat i) ++ rest.drop j.toNat,
        (front ++ List.replicate j.toNat i).length⟩)
      (Int.natCast_nonneg times) (fun j s hj hlt hs => ?_) (by simp)
    subst hs
    obtain ⟨n, rfl⟩ : ∃ n : Nat, j = n := ⟨j.toNat, by omega⟩
    have hn : n < rest.length := by omega
    have hsucc : ((n : Int) + 1).toNat = n + 1 := rfl
    refine ⟨_, ?_, rfl⟩
    rw [Int.toNat_natCast, hsucc, List.drop_eq_getElem_cons hn, writeTurn, store_at rfl]
    simp [List.replicate_succ', Int.add_assoc]
  obtain ⟨s, hs, rfl⟩ := hloop
  exact hs

/-- The loop over the ages leaves the front in order and the rest alone. -/
theorem adjust_ok (h : Counted ages s) :
    forRange s.smallestAge oldestAge (adjustTurn s.timesOfAges) ⟨ages, 0⟩ =
      .ok ⟨front ages 99 ++ ages.drop (front ages 99).length, (front ages 99).length⟩ := by
  have hrange := h.range
  have hstart : front ages s.smallestAge.toNat = [] := front_smallest fun age hmem => by
    have := h.smallest age hmem
    omega
  have hloop : ∃ r, forRange s.smallestAge oldestAge (adjustTurn s.timesOfAges) ⟨ages, 0⟩ = .ok r ∧
      r = ⟨front ages oldestAge.toNat ++ ages.drop (front ages oldestAge.toNat).length,
        (front ages oldestAge.toNat).length⟩ := by
    refine forRange_ok
      (I := fun (i : Int) (r : Adjusting) => r = ⟨front ages i.toNat ++ ages.drop (front ages i.toNat).length,
        (front ages i.toNat).length⟩)
      hrange.2 (fun i r hlo hlt hr => ?_) (by simp [hstart])
    subst hr
    obtain ⟨d, rfl⟩ : ∃ d : Nat, i = d := ⟨i.toNat, by omega⟩
    have hsucc : ((d : Int) + 1).toNat = d + 1 := rfl
    have hfit : ages.count (d : Int) ≤ (ages.drop (front ages d).length).length := by
      have := front_length_le ages (d + 1)
      rw [front_succ, List.length_append, List.length_replicate] at this
      rw [List.length_drop]
      omega
    refine ⟨_, ?_, rfl⟩
    simp only [adjustTurn, h.times d (by omega) hlt, ok_bind, Int.toNat_natCast, hsucc, front_succ]
    by_cases hzero : ages.count (d : Int) = 0
    · simp [hzero]
    · rw [if_neg (by omega), write_ok _ _ _ hfit, List.drop_drop, List.length_append, List.length_replicate]
  obtain ⟨r, hr, rfl⟩ := hloop
  exact hr

/-- The array after the call. -/
def left (ages : List Int) : List Int := front ages 99 ++ ages.drop (front ages 99).length

theorem left_length (ages : List Int) : (left ages).length = ages.length := by
  have := front_length_le ages 99
  rw [left, List.length_append, List.length_drop]
  omega

theorem log_ok (ages : List Int) : ∃ logged : List (Int × Int),
    forRange 0 ages.length (fun i logged => do pure (logged ++ [(i, ← load ages i)])) [] = .ok logged := by
  have hloop : ∃ logged : List (Int × Int),
      forRange 0 ages.length (fun i logged => do pure (logged ++ [(i, ← load ages i)])) [] = .ok logged ∧
        True := by
    refine forRange_ok (I := fun (_ : Int) (_ : List (Int × Int)) => True) (Int.natCast_nonneg ages.length)
      (fun i logged h0 hlt _ => ?_) trivial
    obtain ⟨age, hage⟩ := load_inside h0 hlt
    exact ⟨logged ++ [(i, age)], by simp [hage], trivial⟩
  obtain ⟨logged, hlogged, -⟩ := hloop
  exact ⟨logged, hlogged⟩

/-- **What `sortAges` does** to any ages of the range, whatever the table held. -/
theorem sortAges_ok (hne : ages ≠ []) (hages : Aged ages) (hlen : table.length = 100) :
    ∃ logged, sortAges (some ages) ages.length table = .ok (some (left ages), logged) := by
  have hpos : 0 < ages.length := List.length_pos_iff.mpr hne
  obtain ⟨t, ht, htlen, hzero⟩ := clear_ok hlen
  obtain ⟨first, hfirst⟩ := load_inside (a := ages) (Int.le_refl 0) (by omega)
  have hmem : first ∈ ages := load_mem hfirst
  obtain ⟨s, hs, hcounted⟩ := count_ok hages htlen hzero (hages first hmem)
  obtain ⟨logged, hlogged⟩ := log_ok (left ages)
  rw [left_length] at hlogged
  refine ⟨logged, ?_⟩
  have hadjust : forRange s.smallestAge oldestAge (adjustTurn s.timesOfAges) ⟨ages, 0⟩ =
      .ok ⟨left ages, (front ages 99).length⟩ := adjust_ok hcounted
  have hlength : (ages.length : Int) ≠ 0 := by omega
  simp only [sortAges, if_neg hlength, ht, hfirst, hs, hadjust, hlogged, ok_bind]
  rfl

/-! ## When that is the array sorted -/

theorem oldest_last_split (h : ages.Pairwise fun x y => x = oldestAge → y = oldestAge) :
    ∃ (young : List Int) (k : Nat), ages = young ++ List.replicate k oldestAge ∧ oldestAge ∉ young := by
  induction ages with
  | nil => exact ⟨[], 0, rfl, by simp⟩
  | cons age ages ih =>
    obtain ⟨hage, hrest⟩ := List.pairwise_cons.mp h
    by_cases he : age = oldestAge
    · refine ⟨[], ages.length + 1, ?_, by simp⟩
      rw [he, List.nil_append, List.replicate_succ]
      congr 1
      exact List.eq_replicate_iff.mpr ⟨rfl, fun y hy => hage y hy he⟩
    · obtain ⟨young, k, rfl, hyoung⟩ := ih hrest
      exact ⟨age :: young, k, rfl, by simp [hyoung, Ne.symm he]⟩

theorem mem_agesBelow_oldest {age : Int} (h : 0 ≤ age ∧ age ≤ oldestAge) :
    age ∈ agesBelow 99 ↔ age ≠ oldestAge := by
  rw [mem_agesBelow]
  unfold oldestAge at h ⊢
  omega

theorem filter_young (hages : Aged ages) : ages.filter (· ∈ agesBelow 99) = ages.filter (· ≠ oldestAge) :=
  List.filter_congr fun age hmem => by simp [mem_agesBelow_oldest (hages age hmem)]

theorem front_perm_young (hages : Aged ages) : (front ages 99).Perm (ages.filter (· ≠ oldestAge)) :=
  filter_young hages ▸ front_perm ages 99

theorem mem_front {age : Int} (h : age ∈ front ages 99) : age < oldestAge := by
  have hmem := (List.mem_filter.mp ((front_perm ages 99).mem_iff.mp h)).2
  exact (mem_agesBelow.mp (by simpa using hmem)).2

theorem left_sorts_iff (hages : Aged ages) : (left ages).Pairwise (· ≤ ·) ∧ (left ages).Perm ages ↔
    ages.Pairwise fun x y => x = oldestAge → y = oldestAge := by
  have hperm := front_perm_young hages
  constructor
  · intro ⟨_, hleft⟩
    obtain ⟨young, rest, hsplit, hlen⟩ : ∃ young rest,
        ages = young ++ rest ∧ young.length = (front ages 99).length :=
      ⟨ages.take (front ages 99).length, _, (List.take_append_drop _ ages).symm,
        List.length_take_of_le (front_length_le ages 99)⟩
    -- what was in front of the rest is a permutation of the front: no 99 in it
    have hyoung : (front ages 99).Perm young := by
      have hdrop : ages.drop (front ages 99).length = rest :=
        (congrArg (List.drop _) hsplit).trans (List.drop_left' hlen)
      rw [left, hdrop] at hleft
      exact (List.perm_append_right_iff rest).mp (hleft.trans (.of_eq hsplit))
    have hlow : ∀ age ∈ young, age ≠ oldestAge := fun age hmem =>
      Int.ne_of_lt (mem_front (hyoung.mem_iff.mpr hmem))
    -- and nothing but 99s in the rest
    have hrest : ∀ age ∈ rest, age = oldestAge := by
      have hfilter : young.filter (· ≠ oldestAge) = young :=
        List.filter_eq_self.mpr fun age hmem => by simpa using hlow age hmem
      have hcount := hperm.length_eq
      rw [hsplit, List.filter_append, hfilter, List.length_append, ← hsplit, ← hlen] at hcount
      have hnone : rest.filter (· ≠ oldestAge) = [] := List.length_eq_zero_iff.mp (by omega)
      intro age hmem
      simpa using List.filter_eq_nil_iff.mp hnone age hmem
    rw [hsplit]
    refine List.pairwise_append.mpr ⟨?_, ?_, fun x hx y hy _ => hrest y hy⟩
    · exact List.pairwise_of_forall_mem_list fun x hx y _ he => absurd he (hlow x hx)
    · exact List.pairwise_of_forall_mem_list fun x _ y hy _ => hrest y hy
  · intro hlast
    obtain ⟨young, k, hsplit, hyoung⟩ := oldest_last_split hlast
    have hfilter : ages.filter (· ≠ oldestAge) = young := by
      have hself : young.filter (· ≠ oldestAge) = young :=
        List.filter_eq_self.mpr fun age hmem => by simpa using ne_of_mem_of_not_mem hmem hyoung
      rw [hsplit, List.filter_append, hself]
      simp
    rw [hfilter] at hperm
    have hleft : left ages = front ages 99 ++ List.replicate k oldestAge := by
      have hdrop : ages.drop (front ages 99).length = List.replicate k oldestAge :=
        (congrArg (List.drop _) hsplit).trans (List.drop_left' hperm.length_eq.symm)
      rw [left, hdrop]
    rw [hleft]
    refine ⟨List.pairwise_append.mpr ⟨front_pairwise ages 99, ?_, fun x hx y hy => ?_⟩, ?_⟩
    · exact List.pairwise_replicate.mpr (.inr (Int.le_refl _))
    · rw [List.eq_of_mem_replicate hy]
      exact Int.le_of_lt (mem_front hx)
    · rw [hsplit] at hperm ⊢
      exact hperm.append_right _

/-- **`sortAges` sorts** the arrays whose ages of 99 stand at their end, and
no others; the table's contents do not matter. -/
theorem sortAges_sorts_iff (hne : ages ≠ []) (hages : Aged ages) (htable : table.length = 100) :
    SortsAges ages table ↔ ages.Pairwise fun x y => x = oldestAge → y = oldestAge := by
  obtain ⟨logged, hcall⟩ := sortAges_ok hne hages htable
  rw [← left_sorts_iff hages]
  constructor
  · intro ⟨ages', logged', hcall', hsorted⟩
    obtain ⟨hages', -⟩ := Prod.mk.inj (Except.ok.inj (hcall.symm.trans hcall'))
    rwa [Option.some.inj hages']
  · intro hsorted
    exact ⟨_, logged, hcall, hsorted⟩

/-- The ages of `viewDidLoad`. -/
def sampleAges : List Int := [21, 22, 25, 23, 22, 24, 21, 30, 29, 30]

theorem sortAges_sorts_sample : SortsAges sampleAges (List.replicate 100 7) ↔
    sampleAges.Pairwise fun x y => x = oldestAge → y = oldestAge :=
  sortAges_sorts_iff (by decide) (by unfold Aged; decide) List.length_replicate

/-- Of the ages 99 and 0 the first is lost: two of 0 are left. -/
theorem sortAges_loses_oldest : Aged [99, 0] ∧
    sortAges (some [99, 0]) 2 (List.replicate 100 0) = .ok (some [0, 0], [(0, 0), (1, 0)]) ∧
    ¬ SortsAges [99, 0] (List.replicate 100 0) := by
  have hcall : sortAges (some [99, 0]) 2 (List.replicate 100 0) = .ok (some [0, 0], [(0, 0), (1, 0)]) := by
    decide +kernel
  refine ⟨by unfold Aged; decide, hcall, fun h => ?_⟩
  obtain ⟨ages', logged, hcall', -, hperm⟩ := h
  obtain ⟨hages', -⟩ := Prod.mk.inj (Except.ok.inj (hcall.symm.trans hcall'))
  rw [← Option.some.inj hages'] at hperm
  exact absurd hperm (by decide)

end LearningDemo.Sort
