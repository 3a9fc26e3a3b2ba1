/-
`mergeTwoSortArray` never merges.

Its loop goes on while both lengths are at least 0, so it ends only below 0;
but a turn with a length of 0 reads the number in front of that array. With
room for both arrays that read, at index -1, is the first one outside them
(`mergeTwoSortArray_reads_before`). Up to then a tie has also dropped one
of the two equal numbers.
-/
import LearningDemo.StringArray

namespace LearningDemo.StringArray

open Imperative

variable {a1 a2 : List Int} {s : Merging} {m n : Nat}

/-- Both lengths are still at least 0, with room for them in the first array. -/
structure Inside (a2 : List Int) (s : Merging) : Prop where
  first : 0 ≤ s.length1
  second : 0 ≤ s.length2
  total : s.totalLength = s.length1 + s.length2
  room : s.totalLength ≤ s.a1.length
  other : s.length2 ≤ a2.length

theorem Inside.turn (h : Inside a2 s) (h1 : 0 < s.length1) (h2 : 0 < s.length2) :
    ∃ s', mergeTurn a2 s = .ok s' ∧ Inside a2 s' ∧ s'.totalLength < s.totalLength := by
  obtain ⟨a1, length1, length2, totalLength⟩ := s
  obtain ⟨hfirst, hsecond, htotal, hroom, hother⟩ := h
  simp only at h1 h2 hfirst hsecond htotal hroom hother
  obtain ⟨v1, hv1⟩ := load_inside (a := a1) (show 0 ≤ length1 - 1 by omega) (by omega)
  obtain ⟨v2, hv2⟩ := load_inside (a := a2) (show 0 ≤ length2 - 1 by omega) (by omega)
  obtain ⟨b1, hb1, hlen1⟩ := store_inside (a := a1) (v := v1) (show 0 ≤ totalLength - 1 by omega) (by omega)
  obtain ⟨b2, hb2, hlen2⟩ := store_inside (a := a1) (v := v2) (show 0 ≤ totalLength - 1 by omega) (by omega)
  simp only [mergeTurn, hv1, hv2, hb1, hb2, ok_bind, pure_ok]
  rcases Int.lt_trichotomy v1 v2 with hlt | rfl | hlt
  · rw [if_neg (by omega), if_pos hlt]
    refine ⟨_, rfl, ⟨?_, ?_, ?_, ?_, ?_⟩, ?_⟩ <;> simp only <;> omega
  · simp only [gt_iff_lt, Int.lt_irrefl, if_false, if_true]
    refine ⟨_, rfl, ⟨?_, ?_, ?_, ?_, ?_⟩, ?_⟩ <;> simp only <;> omega
  · rw [if_pos hlt]
    refine ⟨_, rfl, ⟨?_, ?_, ?_, ?_, ?_⟩, ?_⟩ <;> simp only <;> omega

theorem Inside.turn_empty (h : Inside a2 s) (hempty : ¬ (0 < s.length1 ∧ 0 < s.length2)) :
    mergeTurn a2 s = .error (.bounds (-1)) := by
  have hbefore : ∀ a : List Int, load a (-1) = .error (.bounds (-1)) := fun a => load_neg a (by omega)
  unfold mergeTurn
  by_cases h1 : s.length1 = 0
  · rw [h1, Int.zero_sub, hbefore]
    rfl
  · have hfirst := h.first
    have htotal := h.total
    have hroom := h.room
    have hsecond := h.second
    have h2 : s.length2 = 0 := by omega
    obtain ⟨v, hv⟩ := load_inside (a := s.a1) (show 0 ≤ s.length1 - 1 by omega) (by omega)
    rw [hv, h2, Int.zero_sub, hbefore]
    rfl

theorem Inside.loop (h : Inside a2 s) {k : Nat} (hk : s.totalLength < k) {fuel : Nat} (hfuel : k ≤ fuel) :
    whileLoop mergeMore (mergeTurn a2) fuel s = .error (.bounds (-1)) := by
  induction k generalizing s fuel with
  | zero =>
    have h1 := h.first
    have h2 := h.second
    have htotal := h.total
    omega
  | succ k ih =>
    obtain ⟨fuel, rfl⟩ : ∃ n, fuel = n + 1 := ⟨fuel - 1, by omega⟩
    have hmore : mergeMore s = .ok true := by simp [mergeMore, h.first, h.second]
    by_cases hpos : 0 < s.length1 ∧ 0 < s.length2
    · obtain ⟨s', hs', hin, hlt⟩ := h.turn hpos.1 hpos.2
      rw [whileLoop_turn hmore hs']
      exact ih hin (by omega) (by omega)
    · simp [whileLoop, hmore, h.turn_empty hpos]

/-- With room for both arrays the read at index -1 of one of them is the
first outside them. -/
theorem mergeTwoSortArray_reads_before (hm : m + a2.length ≤ a1.length) {fuel : Nat}
    (hfuel : m + a2.length < fuel) :
    mergeTwoSortArray fuel a1 m a2 a2.length = .error (.bounds (-1)) := by
  have hin : Inside a2 ⟨a1, m, a2.length, m + a2.length⟩ :=
    ⟨by simp, by simp, rfl, by simp only; omega, Int.le_refl _⟩
  have hloop := hin.loop (k := m + a2.length + 1) (by simp only; omega) hfuel
  simp only [mergeTwoSortArray, hloop, error_bind]

/-- The call merges: it ends without reading or writing outside the arrays,
with the numbers of both in order at the front of `a1`. -/
def MergesInPlace (a1 : List Int) (m : Nat) (a2 : List Int) : Prop :=
  Returns (fun fuel => mergeTwoSortArray fuel a1 m a2 a2.length) fun out =>
    out.1.length = a1.length ∧ (out.1.take (m + a2.length)).Pairwise (· ≤ ·) ∧
      (out.1.take (m + a2.length)).Perm (a1.take m ++ a2)

/-- **`mergeTwoSortArray` never merges**, whatever the two arrays. -/
theorem mergeTwoSortArray_never_merges (hm : m + a2.length ≤ a1.length) : ¬ MergesInPlace a1 m a2 :=
  not_returns_of_error fun _ hfuel => mergeTwoSortArray_reads_before hm hfuel

/-- The arrays of `viewDidLoad`: five numbers in an array of 20, and five more. -/
def sampleArray1 : List Int := [2, 4, 6, 8, 9] ++ List.replicate 15 0

def sampleArray2 : List Int := [1, 3, 5, 7, 10]

theorem mergeTwoSortArray_sample_never : ¬ MergesInPlace sampleArray1 5 sampleArray2 :=
  mergeTwoSortArray_never_merges (by decide)

theorem mergeTwoSortArray_sample_reads_before :
    (sampleArray1.take 5).Pairwise (· ≤ ·) ∧ sampleArray2.Pairwise (· ≤ ·) ∧
    mergeTwoSortArray 11 sampleArray1 5 sampleArray2 5 = .error (.bounds (-1)) ∧
    ¬ MergesInPlace sampleArray1 5 sampleArray2 :=
  ⟨by decide, by decide, mergeTwoSortArray_reads_before (by decide) (by decide),
    not_returns_of_error fun _ hfuel => mergeTwoSortArray_reads_before (by decide) hfuel⟩

/-- Of two equal numbers the turn writes one. -/
example : mergeTurn [7] ⟨[7, 0], 1, 1, 2⟩ = .ok ⟨[7, 7], 0, 0, 0⟩ := rfl

end LearningDemo.StringArray
