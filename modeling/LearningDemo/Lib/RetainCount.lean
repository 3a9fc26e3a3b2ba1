/-
Manual retain and release: a count for each object, and nested pools of
pending autoreleases.

A message to an object whose count is zero has no outcome. `owned` are the
references counted for an object that are not pending in a pool, so the
ones somebody has to own; there is one equation for what each operation
does to them, and draining a pool does nothing (`owned_drain`).
-/
import Mathlib.Logic.Function.Basic
import Mathlib.Tactic.Common

namespace RetainCount

/-- What the runtime keeps. Objects are numbered as they are allocated; those
from `fresh` on are not yet. -/
structure Memory where
  count : Nat → Nat
  /-- The innermost pool, the last autorelease first. -/
  pool : List Nat
  /-- The pools around it. -/
  outer : List (List Nat)
  fresh : Nat
  unborn : ∀ o, fresh ≤ o → count o = 0

variable {m n : Memory} {o x : Nat}

theorem Memory.lt_fresh (h : 0 < m.count o) : o < m.fresh := by
  by_contra hle
  have := m.unborn o (by omega)
  omega

/-- A new count for an object that has one. -/
def Memory.recount (m : Memory) (o : Nat) (k : Nat) (h : 0 < m.count o) : Memory where
  count := Function.update m.count o k
  pool := m.pool
  outer := m.outer
  fresh := m.fresh
  unborn x hx := by
    have := m.lt_fresh h
    rw [Function.update_of_ne (by omega), m.unborn x hx]

/-! ## Messages -/

/-- `retain`. -/
def Memory.retain (m : Memory) (o : Nat) : Option Memory :=
  if h : 0 < m.count o then some (m.recount o (m.count o + 1) h) else none

/-- `release`. -/
def Memory.release (m : Memory) (o : Nat) : Option Memory :=
  if h : 0 < m.count o then some (m.recount o (m.count o - 1) h) else none

/-- `autorelease`. -/
def Memory.autorelease (m : Memory) (o : Nat) : Option Memory :=
  if 0 < m.count o then some { m with pool := o :: m.pool } else none

/-- A message to `nil` does nothing. -/
def send (message : Memory → Nat → Option Memory) (m : Memory) : Option Nat → Option Memory
  | none => some m
  | some o => message m o

/-- `alloc`: a new object, with one reference. -/
def Memory.alloc (m : Memory) : Nat × Memory where
  fst := m.fresh
  snd := {
    count := Function.update m.count m.fresh 1
    pool := m.pool
    outer := m.outer
    fresh := m.fresh + 1
    unborn := fun x hx => by rw [Function.update_of_ne (by omega), m.unborn x (by omega)] }

/-- A new pool, inside the others. -/
def Memory.push (m : Memory) : Memory := { m with pool := [], outer := m.pool :: m.outer }

/-- A `release` for each object of a list. -/
def Memory.releaseAll (m : Memory) : List Nat → Option Memory
  | [] => some m
  | o :: os => do (← m.release o).releaseAll os

/-- The innermost pool is drained and gone; the last one is replaced by an empty one. -/
def Memory.drain (m : Memory) : Option Memory :=
  { m with pool := m.outer.headD [], outer := m.outer.tail }.releaseAll m.pool

/-! ## Who owns what -/

/-- The autoreleases pending for an object, in all pools. -/
def Memory.pending (m : Memory) (o : Nat) : Nat := m.pool.count o + m.outer.flatten.count o

/-- The references to an object that are not pending. -/
def Memory.owned (m : Memory) (o : Nat) : Int := m.count o - m.pending o

/-- The references a variable makes, one to the object it points at. -/
def refs (slot : Option Nat) (o : Nat) : Nat := if slot = some o then 1 else 0

@[simp] theorem refs_none : refs none o = 0 := rfl

@[simp] theorem refs_self : refs (some o) o = 1 := if_pos rfl

theorem owned_recount {k : Nat} {d : Int} (h : 0 < m.count o) (hk : (k : Int) = m.count o + d) (x : Nat) :
    (m.recount o k h).owned x = m.owned x + if o = x then d else 0 := by
  unfold Memory.owned Memory.recount Memory.pending
  by_cases hx : o = x
  · subst hx
    simp [hk]
    omega
  · simp [hx, Function.update_of_ne (Ne.symm hx)]

theorem owned_retain (h : m.retain o = some n) (x : Nat) : n.owned x = m.owned x + refs (some o) x := by
  unfold Memory.retain at h
  split at h
  · next hpos =>
    obtain rfl := Option.some.inj h
    rw [owned_recount hpos (d := 1) (by simp), refs]
    by_cases hx : o = x <;> simp [hx]
  · cases h

theorem owned_release (h : m.release o = some n) (x : Nat) : n.owned x = m.owned x - refs (some o) x := by
  unfold Memory.release at h
  split at h
  · next hpos =>
    obtain rfl := Option.some.inj h
    rw [owned_recount hpos (d := -1) (by omega), refs]
    by_cases hx : o = x
    · simp [hx]
      omega
    · simp [hx]
  · cases h

/-- A reference handed to the pool is no longer owned. -/
theorem owned_autorelease (h : m.autorelease o = some n) (x : Nat) :
    n.owned x = m.owned x - refs (some o) x := by
  unfold Memory.autorelease at h
  split at h
  · obtain rfl := Option.some.inj h
    by_cases hx : o = x
    · simp [Memory.owned, Memory.pending, refs, hx]
      omega
    · simp [Memory.owned, Memory.pending, refs, hx]
  · cases h

theorem owned_send_retain {slot : Option Nat} (h : send Memory.retain m slot = some n) (x : Nat) :
    n.owned x = m.owned x + refs slot x := by
  cases slot with
  | none => obtain rfl := Option.some.inj h; simp
  | some o => exact owned_retain h x

theorem owned_send_release {slot : Option Nat} (h : send Memory.release m slot = some n) (x : Nat) :
    n.owned x = m.owned x - refs slot x := by
  cases slot with
  | none => obtain rfl := Option.some.inj h; simp
  | some o => exact owned_release h x

theorem owned_send_autorelease {slot : Option Nat} (h : send Memory.autorelease m slot = some n) (x : Nat) :
    n.owned x = m.owned x - refs slot x := by
  cases slot with
  | none => obtain rfl := Option.some.inj h; simp
  | some o => exact owned_autorelease h x

theorem owned_alloc (m : Memory) (x : Nat) : m.alloc.2.owned x = m.owned x + refs (some m.alloc.1) x := by
  have h0 := m.unborn m.fresh (Nat.le_refl _)
  by_cases hx : m.fresh = x
  · subst hx
    simp [Memory.owned, Memory.alloc, Memory.pending, h0]
    omega
  · simp [Memory.owned, Memory.alloc, Memory.pending, refs, hx, Function.update_of_ne (Ne.symm hx)]

theorem owned_push (m : Memory) : m.push.owned = m.owned := by
  funext x
  simp [Memory.owned, Memory.push, Memory.pending]

theorem owned_releaseAll {os : List Nat} (h : m.releaseAll os = some n) (x : Nat) :
    n.owned x = m.owned x - os.count x := by
  induction os generalizing m with
  | nil => obtain rfl := Option.some.inj h; simp
  | cons o os ih =>
    obtain ⟨k, hk, h⟩ := Option.bind_eq_some_iff.mp h
    rw [ih h, owned_release hk, List.count_cons, refs]
    by_cases hx : o = x
    · simp [hx]
      omega
    · simp [hx]

/-- **Draining a pool pays what was pending, so it changes nobody's share.** -/
theorem owned_drain (h : m.drain = some n) : n.owned = m.owned := by
  funext x
  have hstart : ({ m with pool := m.outer.headD [], outer := m.outer.tail } : Memory).owned x =
      m.owned x + m.pool.count x := by
    cases ho : m.outer with
    | nil => simp [Memory.owned, Memory.pending, ho]
    | cons os outer =>
      simp [Memory.owned, Memory.pending, ho]
      omega
  rw [owned_releaseAll h, hstart]
  omega

theorem alive_of_owned (h : 0 < m.owned o) : 0 < m.count o := by
  unfold Memory.owned at h
  omega

end RetainCount
