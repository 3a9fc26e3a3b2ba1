/-
Runs of a labelled transition system whose steps are a partial function.

`Meets G` says of a run that each of its steps was taken in a state where
the guard `G` allows it. `run_guarded` is the invariant rule for such runs,
`meets_of_not_stuck` its converse when a step outside the guard is the last.
-/
import Mathlib.Tactic.Common

namespace Lts

variable {σ α : Type}

/-- The state after the labels, when each step is enabled. -/
def run (step : σ → α → Option σ) : σ → List α → Option σ
  | s, [] => some s
  | s, a :: as => (step s a).bind fun s' => run step s' as

/-- Every step of the run is one the guard allows. -/
def Meets (step : σ → α → Option σ) (G : σ → α → Prop) : σ → List α → Prop
  | _, [] => True
  | s, a :: as => G s a ∧ ∀ s', step s a = some s' → Meets step G s' as

variable {step : σ → α → Option σ} {G : σ → α → Prop} {I : σ → Prop} {s t : σ} {as bs : List α}

theorem run_cons {a : α} :
    run step s (a :: as) = some t ↔ ∃ s', step s a = some s' ∧ run step s' as = some t :=
  Option.bind_eq_some_iff

theorem run_append : run step s (as ++ bs) = some t ↔
    ∃ m, run step s as = some m ∧ run step m bs = some t := by
  induction as generalizing s with
  | nil => simp [run]
  | cons a as ih =>
    simp only [List.cons_append, run_cons, ih]
    constructor
    · intro ⟨s', hs, m, hm, ht⟩
      exact ⟨m, ⟨s', hs, hm⟩, ht⟩
    · intro ⟨m, ⟨s', hs, hm⟩, ht⟩
      exact ⟨s', hs, m, hm, ht⟩

theorem meets_cons {a : α} {s' : σ} (hg : G s a) (hs : step s a = some s') (h : Meets step G s' as) :
    Meets step G s (a :: as) := by
  refine ⟨hg, fun s'' hs'' => ?_⟩
  obtain rfl := Option.some.inj (hs.symm.trans hs'')
  exact h

theorem meets_append {m : σ} (hm : run step s as = some m) (h : Meets step G s (as ++ bs)) :
    Meets step G s as ∧ Meets step G m bs := by
  induction as generalizing s with
  | nil =>
    obtain rfl := Option.some.inj hm
    exact ⟨trivial, h⟩
  | cons a as ih =>
    obtain ⟨s', hs, hm⟩ := run_cons.mp hm
    have hrest := ih hm (h.2 s' hs)
    exact ⟨meets_cons h.1 hs hrest.1, hrest.2⟩

/-- An invariant of the steps the guard allows holds at the end of a run of such steps. -/
theorem run_guarded (hstep : ∀ s a s', I s → G s a → step s a = some s' → I s') (hi : I s)
    (hg : Meets step G s as) (hr : run step s as = some t) : I t := by
  induction as generalizing s with
  | nil =>
    obtain rfl := Option.some.inj hr
    exact hi
  | cons a as ih =>
    obtain ⟨s', hs, hr⟩ := run_cons.mp hr
    exact ih (hstep s a s' hi hg.1 hs) (hg.2 s' hs) hr

theorem meets_of_forall (h : ∀ s, ∀ a ∈ as, G s a) : Meets step G s as := by
  induction as generalizing s with
  | nil => trivial
  | cons a as ih => exact ⟨h s a (by simp), fun _ _ => ih fun s b hb => h s b (by simp [hb])⟩

/-- The invariant rule: what every step keeps holds at the end of every run. -/
theorem run_invariant (hstep : ∀ s a s', I s → step s a = some s' → I s') (hi : I s)
    (hr : run step s as = some t) : I t :=
  run_guarded (fun s a s' h _ => hstep s a s' h) hi
    (meets_of_forall fun _ _ _ => trivial : Meets step (fun _ _ => True) s as) hr

/-- Where each step adds to a log what its label says, a run adds what its labels say. -/
theorem run_log {γ : Type} (L : σ → List γ) (emit : α → List γ) (hI : ∀ s a s', I s → step s a = some s' → I s')
    (hlog : ∀ s a s', I s → step s a = some s' → L s' = L s ++ emit a) (hi : I s)
    (hr : run step s as = some t) : L t = L s ++ as.flatMap emit := by
  induction as generalizing s with
  | nil =>
    obtain rfl := Option.some.inj hr
    exact (List.append_nil _).symm
  | cons a as ih =>
    obtain ⟨s', hs, hr⟩ := run_cons.mp hr
    rw [ih (hI s a s' hi hs) hr, hlog s a s' hi hs, List.append_assoc, List.flatMap_cons]

/-- `P` of every state a run goes through, its last one included. -/
def Always (step : σ → α → Option σ) (P : σ → Prop) (s : σ) (as : List α) : Prop :=
  ∀ past rest mid, as = past ++ rest → run step s past = some mid → P mid

/-- Where `P` survives exactly the steps the guard allows, the runs that keep
it are those that keep to the guard. -/
theorem always_iff_meets {P : σ → Prop} (hI : ∀ s a s', I s → step s a = some s' → I s')
    (hG : ∀ s a s', I s → P s → step s a = some s' → (P s' ↔ G s a)) (hi : I s) (hp : P s)
    (hr : run step s as = some t) : Always step P s as ↔ Meets step G s as := by
  induction as generalizing s with
  | nil =>
    refine iff_of_true (fun past rest mid has hmid => ?_) trivial
    obtain ⟨rfl, -⟩ := List.append_eq_nil_iff.mp has.symm
    obtain rfl := Option.some.inj hmid
    exact hp
  | cons a as ih =>
    obtain ⟨s', hs, hr⟩ := run_cons.mp hr
    have hi' := hI s a s' hi hs
    refine ⟨fun h => ?_, fun h => ?_⟩
    · have hp' : P s' := h [a] as s' rfl (run_cons.mpr ⟨s', hs, rfl⟩)
      refine meets_cons ((hG s a s' hi hp hs).mp hp') hs ((ih hi' hp' hr).mp fun past rest mid has hmid => ?_)
      exact h (a :: past) rest mid (by rw [has, List.cons_append]) (run_cons.mpr ⟨s', hs, hmid⟩)
    · have hp' := (hG s a s' hi hp hs).mpr h.1
      intro past rest mid has hmid
      cases past with
      | nil =>
        obtain rfl := Option.some.inj hmid
        exact hp
      | cons b past =>
        obtain ⟨rfl, hrest⟩ := List.cons.inj has
        obtain ⟨s'', hs', hmid⟩ := run_cons.mp hmid
        obtain rfl := Option.some.inj (hs.symm.trans hs')
        exact (ih hi' hp' hr).mpr (h.2 s' hs) past rest mid hrest hmid

/-- When a step outside the guard leads to a state with no step, and `t` is
no such state, a run to `t` kept to the guard. -/
theorem meets_of_not_stuck {Stuck : σ → Prop} (hout : ∀ s a s', ¬ G s a → step s a = some s' → Stuck s')
    (hstuck : ∀ s a, Stuck s → step s a = none) (hr : run step s as = some t) (ht : ¬ Stuck t) :
    Meets step G s as := by
  induction as generalizing s with
  | nil => trivial
  | cons a as ih =>
    obtain ⟨s', hs, hr⟩ := run_cons.mp hr
    have hfree : ¬ Stuck s' := by
      intro hst
      cases as with
      | nil =>
        obtain rfl := Option.some.inj hr
        exact ht hst
      | cons b bs =>
        obtain ⟨s'', hs'', -⟩ := run_cons.mp hr
        rw [hstuck s' b hst] at hs''
        cases hs''
    refine meets_cons ?_ hs (ih hr)
    by_contra hg
    exact hfree (hout s a s' hg hs)

end Lts
