/-
The pointer after so many steps along `next`, and the two ways a walk can
go: it ends (`IsList`) or visits a cell twice (`Repeats`). In a finite
memory it does one of them (`ends_or_repeats`), never both
(`IsList.not_repeats`), and a walk that repeats is the orbit of a cycle
that never stands at the end (`Repeats.circular`).
-/
import LearningDemo.Lib.Linked
import LearningDemo.Lib.Floyd

namespace Linked

open Function Floyd

variable {α : Type}

/-- One step along `next`; from the end there is none. -/
def follow (next : α → Option α) (p : Option α) : Option α := p.bind next

/-- Where following `next` from `p` stands after `k` steps. -/
def walk (next : α → Option α) (p : Option α) : Nat → Option α
  | 0 => p
  | k + 1 => follow next (walk next p k)

/-- Following `next` from `p` visits some cell twice. -/
def Repeats (next : α → Option α) (p : Option α) : Prop :=
  ∃ i j x, i < j ∧ walk next p i = some x ∧ walk next p j = some x

variable {next : α → Option α} {p : Option α} {xs : List α} {i j : Nat}

@[simp] theorem follow_none : follow next none = none := rfl

@[simp] theorem follow_some (x : α) : follow next (some x) = next x := rfl

@[simp] theorem walk_zero : walk next p 0 = p := rfl

theorem walk_succ (k : Nat) : walk next p (k + 1) = follow next (walk next p k) := rfl

theorem walk_eq_iterate (k : Nat) : walk next p k = (follow next)^[k] p := by
  induction k with
  | zero => rfl
  | succ k ih => rw [walk_succ, ih, iterate_succ_apply']

theorem walk_add : walk next p (i + j) = walk next (walk next p i) j := by
  rw [walk_eq_iterate, walk_eq_iterate, walk_eq_iterate, Nat.add_comm, iterate_add_apply]

theorem walk_none (k : Nat) : walk next none k = none := by
  induction k with
  | zero => rfl
  | succ k ih => rw [walk_succ, ih, follow_none]

theorem walk_none_of_le (h : walk next p i = none) (hij : i ≤ j) : walk next p j = none := by
  rw [← Nat.add_sub_cancel' hij, walk_add, h, walk_none]

theorem isSome_of_le (h : (walk next p j).isSome) (hij : i ≤ j) : (walk next p i).isSome := by
  by_contra hn
  rw [walk_none_of_le (Option.not_isSome_iff_eq_none.mp hn) hij] at h
  cases h

/-! ## Walks that end -/

/-- Along a list, the walk stands at its cells in order. -/
theorem IsList.walk_eq (h : IsList next p xs) (i : Nat) : walk next p i = xs[i]? := by
  induction xs generalizing p i with
  | nil => rw [isList_nil.mp h, walk_none]; simp
  | cons x xs ih =>
    obtain ⟨rfl, hxs⟩ := isList_cons.mp h
    cases i with
    | zero => rfl
    | succ i => rw [Nat.add_comm, walk_add, walk_succ, walk_zero, follow_some, ih hxs, Nat.add_comm]; rfl

/-- A walk that reaches the end is along a list. -/
theorem exists_isList {n : Nat} (h : walk next p n = none) : ∃ xs, IsList next p xs := by
  induction n generalizing p with
  | zero => exact ⟨[], isList_nil.mpr h⟩
  | succ n ih =>
    cases p with
    | none => exact ⟨[], isList_nil.mpr rfl⟩
    | some x =>
      rw [Nat.add_comm, walk_add] at h
      obtain ⟨xs, hxs⟩ := ih h
      exact ⟨x :: xs, isList_cons.mpr ⟨rfl, hxs⟩⟩

theorem IsList.walk_ne (h : IsList next p xs) (hij : i < j) (hi : (walk next p i).isSome) :
    walk next p i ≠ walk next p j := by
  intro he
  rw [h.walk_eq] at hi
  rw [h.walk_eq, h.walk_eq] at he
  have hlt : i < xs.length := by simpa using hi
  exact Nat.ne_of_lt hij ((List.getElem?_inj hlt h.nodup).mp he)

theorem IsList.not_repeats (h : IsList next p xs) : ¬ Repeats next p := by
  intro ⟨i, j, x, hij, hi, hj⟩
  exact h.walk_ne hij (by simp [hi]) (hi.trans hj.symm)

/-! ## Walks that repeat -/

/-- A tail of `mu` cells before a cycle of `lam`. -/
structure Circular (next : α → Option α) (p : Option α) (mu lam : Nat) : Prop where
  rho : Rho (follow next) p mu lam
  node : (walk next p mu).isSome

/-- Following `next` from `x` comes back to it. -/
def OnCycle (next : α → Option α) (x : α) : Prop := ∃ n, 0 < n ∧ walk next (some x) n = some x

theorem Repeats.isSome (h : Repeats next p) (k : Nat) : (walk next p k).isSome := by
  by_contra hk
  -- a walk that ended would be along a list, and visit no cell twice
  obtain ⟨xs, hxs⟩ := exists_isList (Option.not_isSome_iff_eq_none.mp hk)
  exact hxs.not_repeats h

/-- A walk that repeats is a tail and a cycle. -/
theorem Repeats.circular (h : Repeats next p) : ∃ mu lam, Circular next p mu lam := by
  have hnode := h.isSome
  obtain ⟨i, j, x, hij, hi, hj⟩ := h
  have he : (follow next)^[i] p = (follow next)^[j] p := by
    rw [← walk_eq_iterate, ← walk_eq_iterate, hi, hj]
  obtain ⟨mu, lam, hrho⟩ := exists_rho hij he
  exact ⟨mu, lam, hrho, hnode mu⟩

namespace Circular

variable {mu lam : Nat} (h : Circular next p mu lam)

include h

theorem repeats : Repeats next p := by
  have hpos := h.rho.pos
  obtain ⟨x, hx⟩ := Option.isSome_iff_exists.mp h.node
  refine ⟨mu, mu + lam, x, by omega, hx, ?_⟩
  rw [← hx, walk_eq_iterate, walk_eq_iterate, h.rho.closes]

theorem isSome (k : Nat) : (walk next p k).isSome := h.repeats.isSome k

/-- The cells of the tail are not on the cycle, the others are. -/
theorem onCycle_iff {x : α} (hx : walk next p i = some x) : OnCycle next x ↔ mu ≤ i := by
  rw [← h.rho.periodic_iff i, ← walk_eq_iterate, hx]
  show (∃ n, 0 < n ∧ walk next (some x) n = some x) ↔ ∃ n > 0, (follow next)^[n] (some x) = some x
  simp only [walk_eq_iterate, gt_iff_lt]

end Circular

theorem Confined.walk {K : α → Prop} (hK : Confined next K) (hp : ∀ x, p = some x → K x) (k : Nat) :
    ∀ x, walk next p k = some x → K x := by
  induction k with
  | zero => exact hp
  | succ k ih =>
    intro x hx
    rw [walk_succ] at hx
    obtain ⟨y, hy, hyx⟩ := Option.bind_eq_some_iff.mp hx
    exact hK y (ih y hy) x hyx

instance Confined.decidable [DecidableEq α] (next : α → Option α) (K : Finset α) :
    Decidable (Confined next (· ∈ K)) := inferInstanceAs (Decidable (∀ x ∈ K, ∀ y ∈ next x, y ∈ K))

/-- In a finite memory a walk ends or repeats. -/
theorem ends_or_repeats {K : Finset α} (hK : Confined next (· ∈ K)) (hp : ∀ x, p = some x → x ∈ K) :
    (∃ xs, IsList next p xs) ∨ Repeats next p := by
  classical
  by_cases hend : ∃ n, Linked.walk next p n = none
  · obtain ⟨n, hn⟩ := hend
    exact .inl (exists_isList hn)
  · have hall : ∀ k, ∃ x, Linked.walk next p k = some x := fun k =>
      Option.ne_none_iff_exists'.mp fun hn => hend ⟨k, hn⟩
    have hin : ∀ k, (follow next)^[k] p ∈ K.image some := by
      intro k
      obtain ⟨x, hx⟩ := hall k
      rw [← walk_eq_iterate, hx]
      exact Finset.mem_image_of_mem some (hK.walk hp k x hx)
    obtain ⟨i, j, hij, he⟩ := exists_repeat hin
    obtain ⟨x, hx⟩ := hall i
    rw [← walk_eq_iterate, ← walk_eq_iterate] at he
    exact .inr ⟨i, j, x, hij, hx, he ▸ hx⟩

end Linked
