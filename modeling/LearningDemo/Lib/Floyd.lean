/-
Orbits that run into a cycle, and two walkers on one: Floyd's theorem.

From `x`, the map `f` takes `mu` steps to a cycle of length `lam` (`Rho`).
Two points of the orbit are equal only on the cycle and a multiple of `lam`
apart (`Rho.iterate_eq_iff`), so a walker twice as fast is met exactly
after the multiples of `lam` that are at least `mu` (`Rho.meet_iff`), and
from there a walk in step with one from `x` first meets it at the entry of
the cycle (`Rho.entry_iff`).
-/
import Mathlib.Dynamics.PeriodicPts.Defs
import Mathlib.Data.Fintype.Pigeonhole
import Mathlib.Data.Nat.ModEq

namespace Floyd

open Function

variable {α : Type} {f : α → α} {x : α} {mu lam : Nat}

/-- From `x`, a tail of `mu` points and a cycle of `lam`, all distinct. -/
structure Rho (f : α → α) (x : α) (mu lam : Nat) : Prop where
  pos : 0 < lam
  closes : f^[mu + lam] x = f^[mu] x
  distinct : ∀ j < mu + lam, ∀ i < j, f^[i] x ≠ f^[j] x

/-- An orbit with a repetition is a tail and a cycle: the tail ends where the
first repetition points back to. -/
theorem exists_rho {i j : Nat} (hij : i < j) (h : f^[i] x = f^[j] x) : ∃ mu lam, Rho f x mu lam := by
  induction j using Nat.strong_induction_on generalizing i with
  | _ j ih =>
    by_cases hrep : ∃ b < j, ∃ a < b, f^[a] x = f^[b] x
    · obtain ⟨b, hb, a, ha, hab⟩ := hrep
      exact ih b hb ha hab
    · refine ⟨i, j - i, by omega, ?_, ?_⟩
      · rw [Nat.add_sub_cancel' (Nat.le_of_lt hij), h]
      · intro b hb a ha hab
        exact hrep ⟨b, by omega, a, ha, hab⟩

theorem exists_repeat {S : Finset α} (h : ∀ i, f^[i] x ∈ S) : ∃ i j, i < j ∧ f^[i] x = f^[j] x := by
  obtain ⟨i, j, hne, he⟩ := Finite.exists_ne_map_eq_of_infinite fun i : Nat => (⟨f^[i] x, h i⟩ : S)
  have he : f^[i] x = f^[j] x := congrArg Subtype.val he
  rcases Nat.lt_or_gt_of_ne hne with hlt | hlt
  · exact ⟨i, j, hlt, he⟩
  · exact ⟨j, i, hlt, he.symm⟩

namespace Rho

variable (h : Rho f x mu lam)

include h

theorem periodic : IsPeriodicPt f lam (f^[mu] x) := by
  show f^[lam] (f^[mu] x) = f^[mu] x
  rw [← iterate_add_apply, Nat.add_comm, h.closes]

/-- A point past the tail is one of the first `mu + lam`. -/
theorem fold {i : Nat} (hi : mu ≤ i) : f^[i] x = f^[mu + (i - mu) % lam] x := by
  calc f^[i] x = f^[i - mu] (f^[mu] x) := by rw [← iterate_add_apply, Nat.sub_add_cancel hi]
    _ = f^[(i - mu) % lam] (f^[mu] x) := (h.periodic.iterate_mod_apply _).symm
    _ = f^[mu + (i - mu) % lam] x := by rw [← iterate_add_apply, Nat.add_comm]

theorem inj {i j : Nat} (hi : i < mu + lam) (hj : j < mu + lam) (he : f^[i] x = f^[j] x) : i = j := by
  rcases Nat.lt_trichotomy i j with hlt | heq | hlt
  · exact absurd he (h.distinct j hj i hlt)
  · exact heq
  · exact absurd he.symm (h.distinct i hi j hlt)

theorem iterate_eq_iff {i j : Nat} (hij : i < j) : f^[i] x = f^[j] x ↔ mu ≤ i ∧ lam ∣ j - i := by
  have hpos := h.pos
  constructor
  · intro he
    have hj : mu ≤ j := by
      by_contra hlt
      exact h.distinct j (by omega) i hij he
    rw [h.fold hj] at he
    have hmod := Nat.mod_lt (j - mu) hpos
    have hi : mu ≤ i := by
      by_contra hlt
      have := h.inj (by omega) (by omega) he
      omega
    rw [h.fold hi] at he
    have hmod' := Nat.mod_lt (i - mu) hpos
    have heq := h.inj (by omega) (by omega) he
    refine ⟨hi, ?_⟩
    have hm : (i - mu) ≡ (j - mu) [MOD lam] := by
      show (i - mu) % lam = (j - mu) % lam
      omega
    have hd := (Nat.modEq_iff_dvd' (by omega)).mp hm
    rwa [show j - mu - (i - mu) = j - i by omega] at hd
  · intro ⟨hi, hd⟩
    rw [h.fold hi, h.fold (i := j) (by omega)]
    have hm : (i - mu) ≡ (j - mu) [MOD lam] := by
      refine (Nat.modEq_iff_dvd' (by omega)).mpr ?_
      rwa [show j - mu - (i - mu) = j - i by omega]
    rw [show (i - mu) % lam = (j - mu) % lam from hm]

/-- When the walker at double speed is met. -/
theorem meet_iff {t : Nat} (ht : 0 < t) : f^[t] x = f^[2 * t] x ↔ mu ≤ t ∧ lam ∣ t := by
  rw [h.iterate_eq_iff (by omega), show 2 * t - t = t by omega]

theorem exists_meet : ∃ t, 0 < t ∧ f^[t] x = f^[2 * t] x := by
  refine ⟨lam * (mu + 1), Nat.mul_pos h.pos (by omega), ?_⟩
  have hle : mu + 1 ≤ lam * (mu + 1) := Nat.le_mul_of_pos_left _ h.pos
  exact (h.meet_iff (by omega)).mpr ⟨by omega, Nat.dvd_mul_right _ _⟩

/-- **Floyd's theorem.** From a meeting point, a walk in step with one from
`x` meets it at the entry of the cycle and not before. -/
theorem entry_iff {t : Nat} (ht : 0 < t) (hmeet : f^[t] x = f^[2 * t] x) (i : Nat) :
    f^[i] x = f^[2 * t + i] x ↔ mu ≤ i := by
  obtain ⟨-, hd⟩ := (h.meet_iff ht).mp hmeet
  rw [h.iterate_eq_iff (by omega), show 2 * t + i - i = 2 * t by omega]
  exact and_iff_left (hd.mul_left 2)

/-- The points up to the entry are not on the cycle, the others are. -/
theorem periodic_iff (i : Nat) : f^[i] x ∈ periodicPts f ↔ mu ≤ i := by
  constructor
  · intro ⟨n, hn, hp⟩
    have he : f^[i] x = f^[i + n] x := by
      rw [Nat.add_comm, iterate_add_apply]
      exact hp.symm
    exact ((h.iterate_eq_iff (by omega)).mp he).1
  · intro hi
    refine ⟨lam, h.pos, ?_⟩
    have hp := h.periodic.apply_iterate (i - mu)
    rwa [← iterate_add_apply, Nat.sub_add_cancel hi] at hp

end Rho

end Floyd
