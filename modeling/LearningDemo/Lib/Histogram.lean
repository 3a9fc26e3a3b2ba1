/-
A list written back from its histogram: each key in turn, as often as it
was counted. With the keys in order that is the list sorted (`spread_perm`,
`spread_pairwise`).
-/
import Mathlib.Data.List.Perm.Basic
import Mathlib.Data.List.Nodup

namespace Histogram

variable {α : Type} {times : α → Nat} {keys : List α} {key : α}

/-- The keys, each of them `times key` times. -/
def spread (times : α → Nat) (keys : List α) : List α := keys.flatMap fun key => List.replicate (times key) key

theorem spread_snoc : spread times (keys ++ [key]) = spread times keys ++ List.replicate (times key) key := by
  simp [spread]

theorem mem_spread : key ∈ spread times keys ↔ key ∈ keys ∧ times key ≠ 0 := by
  simp only [spread, List.mem_flatMap, List.mem_replicate]
  constructor
  · intro ⟨key', hmem, hne, he⟩
    subst he
    exact ⟨hmem, hne⟩
  · intro ⟨hmem, hne⟩
    exact ⟨key, hmem, hne, rfl⟩

theorem spread_eq_nil (h : ∀ key ∈ keys, times key = 0) : spread times keys = [] := by
  refine List.eq_nil_iff_forall_not_mem.mpr fun key hmem => ?_
  obtain ⟨hkey, hne⟩ := mem_spread.mp hmem
  exact hne (h key hkey)

/-- In the order of the keys. -/
theorem spread_pairwise {R : α → α → Prop} (hrefl : ∀ key, R key key) (h : keys.Pairwise R) :
    (spread times keys).Pairwise R := by
  refine List.pairwise_flatMap.mpr ⟨fun key _ => ?_, h.imp fun hr x hx y hy => ?_⟩
  · exact List.pairwise_replicate.mpr (.inr (hrefl key))
  · rw [List.eq_of_mem_replicate hx, List.eq_of_mem_replicate hy]
    exact hr

variable [DecidableEq α]

theorem count_spread (h : keys.Nodup) :
    (spread times keys).count key = if key ∈ keys then times key else 0 := by
  induction keys with
  | nil => rfl
  | cons k keys ih =>
    obtain ⟨hk, hkeys⟩ := List.nodup_cons.mp h
    have hcons : spread times (k :: keys) = List.replicate (times k) k ++ spread times keys := rfl
    rw [hcons, List.count_append, ih hkeys, List.count_replicate]
    by_cases he : k = key
    · subst he
      simp [hk]
    · have hne : key ≠ k := fun h => he h.symm
      simp [he, hne]

/-- A histogram of a list holds those of its elements that are keys. -/
theorem spread_perm (xs : List α) (h : keys.Nodup) :
    (spread (xs.count ·) keys).Perm (xs.filter (· ∈ keys)) := by
  refine List.perm_iff_count.mpr fun key => ?_
  rw [count_spread h]
  by_cases hmem : key ∈ keys
  · rw [if_pos hmem, List.count_filter (by simpa using hmem)]
  · rw [if_neg hmem]
    exact (List.count_eq_zero.mpr fun hf => hmem (by simpa using (List.mem_filter.mp hf).2)).symm

end Histogram
