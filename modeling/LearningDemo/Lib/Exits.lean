/-
Loops with exits: a turn goes on, breaks out of the loop, or returns from
the function around it.

`loop_returns` is the total-correctness rule, with one postcondition for
the ways a loop can end. `Heads` are the states in which the condition is
tested; what a turn that goes on keeps holds of all of them.
-/
import LearningDemo.Lib.Imperative

namespace Imperative

variable {σ ρ : Type}

/-- How one turn of a loop ends: at the end of its body (or a `continue`),
with a `break`, or with a `return`. -/
inductive Flow (σ ρ : Type) where
  | next (s : σ)
  | brk (s : σ)
  | ret (r : ρ)
  deriving DecidableEq, Repr

/-- How a loop ends: it is left, by its condition or a `break`, or returned from. -/
inductive Exit (σ ρ : Type) where
  | left (s : σ)
  | returned (r : ρ)
  deriving DecidableEq, Repr

/-- `while (c) body` with exits in the body, for at most the given number of turns. -/
def loop (c : σ → C Bool) (body : σ → C (Flow σ ρ)) : Nat → σ → C (Exit σ ρ)
  | 0, _ => .error .fuel
  | n + 1, s => do
    if ← c s then
      match ← body s with
      | .next s' => loop c body n s'
      | .brk s' => pure (.left s')
      | .ret r => pure (.returned r)
    else pure (.left s)

variable {c : σ → C Bool} {body : σ → C (Flow σ ρ)}

theorem loop_stop {n : Nat} {s : σ} (h : c s = .ok false) : loop c body (n + 1) s = .ok (.left s) := by
  simp [loop, h]

theorem loop_next {n : Nat} {s s' : σ} (h : c s = .ok true) (hb : body s = .ok (.next s')) :
    loop c body (n + 1) s = loop c body n s' := by
  simp [loop, h, hb]

theorem loop_brk {n : Nat} {s s' : σ} (h : c s = .ok true) (hb : body s = .ok (.brk s')) :
    loop c body (n + 1) s = .ok (.left s') := by
  simp [loop, h, hb]

theorem loop_ret {n : Nat} {s : σ} {r : ρ} (h : c s = .ok true) (hb : body s = .ok (.ret r)) :
    loop c body (n + 1) s = .ok (.returned r) := by
  simp [loop, h, hb]

theorem loop_fault {n : Nat} {s : σ} {e : Fault} (h : c s = .ok true) (hb : body s = .error e) :
    loop c body (n + 1) s = .error e := by
  simp [loop, h, hb]

/-- What the rule asks of the end of a turn: an exit meets the
postcondition, the next turn the invariant at a lower bound. -/
def Flow.Ends (I : Nat → σ → Prop) (Q : Exit σ ρ → Prop) (k : Nat) : Flow σ ρ → Prop
  | .next s => ∃ j, I j s ∧ j < k
  | .brk s => Q (.left s)
  | .ret r => Q (.returned r)

/-- Total correctness: an invariant under which every turn succeeds, with a
bound on the turns to come that every turn lowers. -/
theorem loop_returns {I : Nat → σ → Prop} {Q : Exit σ ρ → Prop}
    (hstep : ∀ k s, I k s → (c s = .ok false ∧ Q (.left s)) ∨
      (c s = .ok true ∧ ∃ o, body s = .ok o ∧ o.Ends I Q k)) :
    ∀ {n k : Nat} {s : σ}, I k s → k < n → ∃ e, loop c body n s = .ok e ∧ Q e := by
  intro n
  induction n with
  | zero => intro k s _ hn; omega
  | succ n ih =>
    intro k s hi hn
    rcases hstep k s hi with ⟨hc, hq⟩ | ⟨hc, o, hb, ho⟩
    · exact ⟨.left s, loop_stop hc, hq⟩
    · cases o with
      | next s' =>
        obtain ⟨j, hj, hlt⟩ := ho
        obtain ⟨e, he, hq⟩ := ih hj (by omega)
        exact ⟨e, by rw [loop_next hc hb, he], hq⟩
      | brk s' => exact ⟨.left s', loop_brk hc hb, ho⟩
      | ret r => exact ⟨.returned r, loop_ret hc hb, ho⟩

theorem loop_ends {I : Nat → σ → Prop} {e : Exit σ ρ} {n k : Nat} {s : σ}
    (hstep : ∀ k s, I k s → (c s = .ok false ∧ .left s = e) ∨
      (c s = .ok true ∧ ∃ o, body s = .ok o ∧ o.Ends I (· = e) k))
    (hi : I k s) (hn : k < n) : loop c body n s = .ok e := by
  obtain ⟨_, he, rfl⟩ := loop_returns (Q := (· = e)) hstep hi hn
  exact he

theorem loop_returned {n : Nat} {s : σ} {r : ρ} (h : loop c body n s = .ok (.returned r)) :
    ∃ m, n = m + 1 ∧ c s = .ok true ∧
      (body s = .ok (.ret r) ∨ ∃ s', body s = .ok (.next s') ∧ loop c body m s' = .ok (.returned r)) := by
  cases n with
  | zero => cases h
  | succ m =>
    refine ⟨m, rfl, ?_⟩
    simp only [loop, bind_ok] at h
    obtain ⟨b, hc, h⟩ := h
    cases b with
    | false => cases h
    | true =>
      simp only [if_true, bind_ok] at h
      obtain ⟨o, hb, h⟩ := h
      cases o with
      | next s' => exact ⟨hc, .inr ⟨s', hb, h⟩⟩
      | brk s' => cases h
      | ret r' => cases h; exact ⟨hc, .inl hb⟩

/-- A loop without an end of its own, by its condition or a `break`, is never left. -/
theorem loop_not_left (hc : ∀ s, c s = .ok true) (hb : ∀ s t, body s ≠ .ok (.brk t)) :
    ∀ {n : Nat} {s t : σ}, loop c body n s ≠ .ok (.left t) := by
  intro n
  induction n with
  | zero => intro s t h; cases h
  | succ n ih =>
    intro s t h
    simp only [loop, hc, ok_bind, if_true, bind_ok] at h
    obtain ⟨o, ho, h⟩ := h
    cases o with
    | next s' => exact ih h
    | brk s' => exact hb s s' ho
    | ret r => cases h

/-- A loop that goes on in every state of an invariant never ends. -/
theorem loop_forever {I : σ → Prop} (hstep : ∀ s, I s → c s = .ok true ∧ ∃ s', body s = .ok (.next s') ∧ I s') :
    ∀ {n : Nat} {s : σ}, I s → loop c body n s = .error .fuel := by
  intro n
  induction n with
  | zero => exact fun _ => rfl
  | succ n ih =>
    intro s hi
    obtain ⟨hc, s', hb, hi'⟩ := hstep s hi
    rw [loop_next hc hb, ih hi']

/-- The states in which the loop tests its condition. -/
inductive Heads (c : σ → C Bool) (body : σ → C (Flow σ ρ)) (s : σ) : σ → Prop where
  | start : Heads c body s s
  | turn {t t' : σ} : Heads c body s t → c t = .ok true → body t = .ok (.next t') → Heads c body s t'

/-- What a turn that goes on keeps holds at the head of every turn. -/
theorem Heads.invariant {I : σ → Prop} {s t : σ}
    (hstep : ∀ t t', I t → c t = .ok true → body t = .ok (.next t') → I t') (hi : I s)
    (h : Heads c body s t) : I t := by
  induction h with
  | start => exact hi
  | turn _ hc hb ih => exact hstep _ _ ih hc hb

end Imperative
