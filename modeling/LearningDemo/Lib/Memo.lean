/-
A computation that keeps a cache, against one that computes everything anew.

`Agrees` says that in every coherent cache the two answer alike (or fail
alike) and the cache stays coherent. It passes through sequences of such
computations and so to every run of requests (`Agrees.run_mapM`).
-/
import LearningDemo.Lib.Imperative

namespace Memo

variable {ε σ ρ α β : Type}

/-- In a coherent cache, `x` answers what `g` does and leaves the cache coherent. -/
def Agrees (Coherent : σ → Prop) (x : StateT σ (Except ε) α) (g : Except ε α) : Prop :=
  ∀ s, Coherent s →
    (∃ a s', x.run s = .ok (a, s') ∧ g = .ok a ∧ Coherent s') ∨ ∃ e, x.run s = .error e ∧ g = .error e

variable {Coherent : σ → Prop} {x : StateT σ (Except ε) α} {g : Except ε α} {s : σ}

/-- What is answered, the cache apart. -/
theorem Agrees.run' (h : Agrees Coherent x g) (hs : Coherent s) : x.run' s = g := by
  rw [StateT.run'_eq]
  rcases h s hs with ⟨a, s', hx, hg, -⟩ | ⟨e, hx, hg⟩
  · rw [hx, hg]
    rfl
  · rw [hx, hg]
    rfl

theorem agrees_pure (a : α) : Agrees Coherent (pure a) (pure a : Except ε α) :=
  fun s hs => .inl ⟨a, s, rfl, rfl, hs⟩

theorem agrees_lift (g : Except ε α) : Agrees Coherent (liftM g) g := by
  intro s hs
  cases g with
  | error e => exact .inr ⟨e, rfl, rfl⟩
  | ok a => exact .inl ⟨a, s, rfl, rfl, hs⟩

theorem Agrees.bind {x' : α → StateT σ (Except ε) β} {g' : α → Except ε β} (h : Agrees Coherent x g)
    (h' : ∀ a, Agrees Coherent (x' a) (g' a)) : Agrees Coherent (x >>= x') (g >>= g') := by
  intro s hs
  rw [StateT.run_bind]
  rcases h s hs with ⟨a, s', hx, hg, hs'⟩ | ⟨e, hx, hg⟩
  · rw [hx, hg]
    exact h' a s' hs'
  · exact .inr ⟨e, by rw [hx]; rfl, by rw [hg]; rfl⟩

theorem agrees_mapM {f : ρ → StateT σ (Except ε) α} {g : ρ → Except ε α}
    (h : ∀ r, Agrees Coherent (f r) (g r)) (rs : List ρ) : Agrees Coherent (rs.mapM f) (rs.mapM g) := by
  induction rs with
  | nil => exact agrees_pure []
  | cons r rs ih =>
    rw [List.mapM_cons, List.mapM_cons]
    exact (h r).bind fun a => ih.bind fun as => agrees_pure (a :: as)

/-- Every run of requests is answered as if there were no cache. -/
theorem run_mapM {f : ρ → StateT σ (Except ε) α} {g : ρ → Except ε α}
    (h : ∀ r, Agrees Coherent (f r) (g r)) (hs : Coherent s) (rs : List ρ) :
    (rs.mapM f).run' s = rs.mapM g := (agrees_mapM h rs).run' hs

end Memo
