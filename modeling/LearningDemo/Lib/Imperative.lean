/-
C computations as values of `Except Fault`, and the rules for their loops.

A loop is cut after a number of turns (its fuel), so every function is
total here. `Returns` is what a C programmer means by "terminates and
yields": from some fuel on, the answer is there and does not depend on the
fuel. `whileLoop_ok` reads a loop that did return (partial correctness),
`whileLoop_returns` proves that one does (an invariant and a variant).
-/
import Mathlib.Tactic.Common

namespace Imperative

/-- Why a C computation has not returned. -/
inductive Fault where
  /-- A `NULL` pointer was followed. -/
  | null
  /-- An index outside its array. -/
  | bounds (i : Int)
  /-- An `int` outside its range, which C leaves undefined. -/
  | overflow
  /-- A loop or a recursion cut before its end. -/
  | fuel
  deriving DecidableEq, Repr

/-- A C computation: its result, or why there is none. -/
abbrev C := Except Fault

variable {ε α β σ : Type}

theorem bind_ok {x : Except ε α} {f : α → Except ε β} {b : β} :
    (x >>= f) = .ok b ↔ ∃ a, x = .ok a ∧ f a = .ok b := by
  cases x with
  | error e => simp [bind, Except.bind]
  | ok a => simp [bind, Except.bind]

@[simp] theorem ok_bind (a : α) (f : α → Except ε β) : ((Except.ok a : Except ε α) >>= f) = f a := rfl

@[simp] theorem error_bind (e : ε) (f : α → Except ε β) :
    ((Except.error e : Except ε α) >>= f) = .error e := rfl

@[simp] theorem pure_ok (a : α) : (pure a : Except ε α) = .ok a := rfl

/-! ## `int` -/

/-- `INT_MAX`. -/
def intMax : Int := 2147483647

/-- `INT_MIN`. -/
def intMin : Int := -2147483648

/-- A value computed in `int`. -/
def int (n : Int) : C Int := if intMin ≤ n ∧ n ≤ intMax then .ok n else .error .overflow

/-- `INT_MAX`, as the last index an `int` can be. -/
def lastIndex : Nat := 2147483647

theorem intMax_eq : intMax = lastIndex := rfl

theorem int_ok {n : Int} (h : intMin ≤ n ∧ n ≤ intMax) : int n = .ok n := if_pos h

theorem int_natCast {n : Nat} (h : n ≤ lastIndex) : int n = .ok n :=
  int_ok ⟨by unfold intMin; omega, by rw [intMax_eq]; omega⟩

theorem int_overflow {n : Int} (h : intMax < n) : int n = .error .overflow := if_neg fun hn => by omega

theorem int_natCast_overflow {n : Nat} (h : lastIndex < n) : int n = .error .overflow :=
  int_overflow (by rw [intMax_eq]; exact Int.ofNat_lt.mpr h)

/-! ## Total correctness -/

/-- With enough fuel `f` returns, and `P` holds of what it returns. -/
def Returns (f : Nat → C α) (P : α → Prop) : Prop :=
  ∃ n, ∀ fuel, n ≤ fuel → ∃ r, f fuel = .ok r ∧ P r

theorem Returns.elim {f : Nat → C α} {P : α → Prop} (h : Returns f P) :
    ∃ fuel r, f fuel = .ok r ∧ P r := by
  obtain ⟨n, h⟩ := h
  exact ⟨n, h n (Nat.le_refl n)⟩

theorem Returns.of_ok {f : Nat → C α} {P : α → Prop} {r : α} (h : ∀ fuel, f fuel = .ok r)
    (hp : P r) : Returns f P := ⟨0, fun fuel _ => ⟨r, h fuel, hp⟩⟩

theorem Returns.mono {f : Nat → C α} {P Q : α → Prop} (h : Returns f P) (hpq : ∀ r, P r → Q r) :
    Returns f Q := by
  obtain ⟨n, hn⟩ := h
  refine ⟨n, fun fuel hfuel => ?_⟩
  obtain ⟨r, hr, hp⟩ := hn fuel hfuel
  exact ⟨r, hr, hpq r hp⟩

theorem Returns.both {f : Nat → C α} {P Q : α → Prop} (hp : Returns f P) (hq : Returns f Q) :
    ∃ r, P r ∧ Q r := by
  obtain ⟨n, hn⟩ := hp
  obtain ⟨m, hm⟩ := hq
  obtain ⟨r, hr, hpr⟩ := hn (max n m) (by omega)
  obtain ⟨r', hr', hqr⟩ := hm (max n m) (by omega)
  exact ⟨r, hpr, by rwa [Except.ok.inj (hr.symm.trans hr')]⟩

theorem Returns.iff_of_eq {f : Nat → C α} {P : α → Prop} {r : α} (h : Returns f (· = r)) :
    Returns f P ↔ P r := by
  constructor
  · intro hret
    obtain ⟨_, rfl, hp⟩ := h.both hret
    exact hp
  · intro hp
    refine h.mono fun r' hr => ?_
    rw [hr]
    exact hp

theorem not_returns_of_error {f : Nat → C α} {P : α → Prop} {n : Nat} {e : Fault}
    (h : ∀ fuel, n ≤ fuel → f fuel = .error e) : ¬ Returns f P := by
  intro ⟨m, hm⟩
  obtain ⟨r, hr, -⟩ := hm (max n m) (by omega)
  rw [h (max n m) (by omega)] at hr
  cases hr

/-! ## `while` -/

/-- `while (c) body`, for at most the given number of turns. -/
def whileLoop (c : σ → C Bool) (body : σ → C σ) : Nat → σ → C σ
  | 0, _ => .error .fuel
  | n + 1, s => do
    if ← c s then whileLoop c body n (← body s) else pure s

section While

variable {c : σ → C Bool} {body : σ → C σ}

theorem whileLoop_stop {n : Nat} {s : σ} (h : c s = .ok false) :
    whileLoop c body (n + 1) s = .ok s := by
  simp [whileLoop, h]

theorem whileLoop_turn {n : Nat} {s s' : σ} (h : c s = .ok true) (hb : body s = .ok s') :
    whileLoop c body (n + 1) s = whileLoop c body n s' := by
  simp [whileLoop, h, hb]

theorem whileLoop_fault {n : Nat} {s : σ} {e : Fault} (h : c s = .error e) :
    whileLoop c body (n + 1) s = .error e := by
  simp [whileLoop, h]

theorem whileLoop_body_fault {n : Nat} {s : σ} {e : Fault} (h : c s = .ok true) (hb : body s = .error e) :
    whileLoop c body (n + 1) s = .error e := by
  simp [whileLoop, h, hb]

theorem whileLoop_run {s : Nat → σ} {m : Nat}
    (h : ∀ t < m, c (s t) = .ok true ∧ body (s t) = .ok (s (t + 1))) (n : Nat) :
    whileLoop c body (n + m) (s 0) = whileLoop c body n (s m) := by
  induction m generalizing n with
  | zero => rfl
  | succ m ih =>
    obtain ⟨hc, hb⟩ := h m (Nat.lt_succ_self m)
    rw [Nat.add_comm m 1, ← Nat.add_assoc, ih (fun t ht => h t (by omega)), whileLoop_turn hc hb,
      Nat.add_comm 1 m]

/-- Partial correctness: a loop that returned left its condition false and
its invariant true. -/
theorem whileLoop_ok {I : σ → Prop}
    (hstep : ∀ s s', I s → c s = .ok true → body s = .ok s' → I s') :
    ∀ {n : Nat} {s r : σ}, I s → whileLoop c body n s = .ok r → I r ∧ c r = .ok false := by
  intro n
  induction n with
  | zero => intro s r _ h; simp [whileLoop] at h
  | succ n ih =>
    intro s r hi h
    simp only [whileLoop, bind_ok] at h
    obtain ⟨b, hc, h⟩ := h
    cases b with
    | false => cases h; exact ⟨hi, hc⟩
    | true =>
      simp only [if_true, bind_ok] at h
      obtain ⟨s', hb, h⟩ := h
      exact ih (hstep s s' hi hc hb) h

/-- A loop whose condition holds in every state of an invariant never returns. -/
theorem whileLoop_forever {I : σ → Prop} (hc : ∀ s, I s → c s = .ok true)
    (hstep : ∀ s s', I s → body s = .ok s' → I s') {n : Nat} {s r : σ} (hi : I s) :
    whileLoop c body n s ≠ .ok r := by
  intro h
  obtain ⟨hr, hf⟩ := whileLoop_ok (fun s s' hi _ hb => hstep s s' hi hb) hi h
  rw [hc r hr] at hf
  cases hf

/-- The rest of a loop that returned after a turn. -/
theorem whileLoop_rest {n : Nat} {s s' r : σ} (h : c s = .ok true) (hb : body s = .ok s')
    (hr : whileLoop c body n s = .ok r) : ∃ m, whileLoop c body m s' = .ok r := by
  cases n with
  | zero => simp [whileLoop] at hr
  | succ n => exact ⟨n, by rwa [whileLoop_turn h hb] at hr⟩

/-- Total correctness: an invariant under which every turn succeeds, with a
bound on the turns to come that every turn lowers. -/
theorem whileLoop_returns {I : Nat → σ → Prop}
    (hstep : ∀ k s, I k s → c s = .ok false ∨
      (c s = .ok true ∧ ∃ s' k', body s = .ok s' ∧ I k' s' ∧ k' < k)) :
    ∀ {n k : Nat} {s : σ}, I k s → k < n →
      ∃ r, whileLoop c body n s = .ok r ∧ (∃ j, I j r) ∧ c r = .ok false := by
  intro n
  induction n with
  | zero => intro k s _ hn; omega
  | succ n ih =>
    intro k s hi hn
    rcases hstep k s hi with hc | ⟨hc, s', k', hb, hi', hlt⟩
    · exact ⟨s, whileLoop_stop hc, ⟨k, hi⟩, hc⟩
    · obtain ⟨r, hr, hI⟩ := ih hi' (by omega)
      exact ⟨r, by rw [whileLoop_turn hc hb, hr], hI⟩

/-- The states in which a `while` tests its condition. -/
inductive Tested (c : σ → C Bool) (body : σ → C σ) (s : σ) : σ → Prop where
  | start : Tested c body s s
  | turn {t t' : σ} : Tested c body s t → c t = .ok true → body t = .ok t' → Tested c body s t'

/-- What a turn keeps holds whenever the condition is tested. -/
theorem Tested.invariant {I : σ → Prop} {s t : σ}
    (hstep : ∀ t t', I t → c t = .ok true → body t = .ok t' → I t') (hi : I s) (h : Tested c body s t) : I t := by
  induction h with
  | start => exact hi
  | turn _ hc hb ih => exact hstep _ _ ih hc hb

theorem Tested.run {s : Nat → σ} {m : Nat} (h : ∀ t < m, c (s t) = .ok true ∧ body (s t) = .ok (s (t + 1))) :
    Tested c body (s 0) (s m) := by
  induction m with
  | zero => exact .start
  | succ m ih =>
    obtain ⟨hc, hb⟩ := h m (Nat.lt_succ_self m)
    exact (ih fun t ht => h t (by omega)).turn hc hb

end While

/-! ## `for` over an index range -/

/-- `count` turns of a `for` loop whose index starts at `j`. -/
def forTurns (body : Int → σ → C σ) : Nat → Int → σ → C σ
  | 0, _, s => pure s
  | count + 1, j, s => do forTurns body count (j + 1) (← body j s)

/-- `for (j = lo; j < hi; j++) body`, for a body that leaves `j` and `hi` alone. -/
def forRange (lo hi : Int) (body : Int → σ → C σ) (s : σ) : C σ :=
  forTurns body (hi - lo).toNat lo s

/-- An invariant that every turn keeps, and that says that it succeeds. -/
theorem forRange_ok {I : Int → σ → Prop} {lo hi : Int} {body : Int → σ → C σ} {s : σ} (hle : lo ≤ hi)
    (hstep : ∀ j s, lo ≤ j → j < hi → I j s → ∃ s', body j s = .ok s' ∧ I (j + 1) s') (hi₀ : I lo s) :
    ∃ s', forRange lo hi body s = .ok s' ∧ I hi s' := by
  have hturns : ∀ (count : Nat) (j : Int) (s : σ), lo ≤ j → j + count = hi → I j s →
      ∃ s', forTurns body count j s = .ok s' ∧ I hi s' := by
    intro count
    induction count with
    | zero =>
      intro j s _ hj hs
      obtain rfl : j = hi := by omega
      exact ⟨s, rfl, hs⟩
    | succ count ih =>
      intro j s hlo hj hs
      obtain ⟨s', hb, hs'⟩ := hstep j s hlo (by omega) hs
      obtain ⟨r, hr, hir⟩ := ih (j + 1) s' (by omega) (by omega) hs'
      exact ⟨r, by rw [forTurns, hb, ok_bind, hr], hir⟩
  exact hturns (hi - lo).toNat lo s (Int.le_refl lo) (by omega) hi₀

theorem forRange_empty {lo hi : Int} {body : Int → σ → C σ} {s : σ} (h : hi ≤ lo) :
    forRange lo hi body s = .ok s := by
  have h0 : (hi - lo).toNat = 0 := by omega
  simp [forRange, h0, forTurns]

end Imperative
