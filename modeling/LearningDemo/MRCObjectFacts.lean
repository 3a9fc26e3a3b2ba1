/-
What the data slot of an `MRCObject` owns.

`init` stores an object it has not retained, so from there on the releases
made for the slot are one ahead for that object (`Sound.ledger`). While the
slot still points at it, the slot owns nothing; once the slot points at
anything else it does own its object, but `dealloc` clears the variable in
front of the setter, and the reference is never given back.
-/
import LearningDemo.MRCObject

namespace LearningDemo.MRCObject

open Lts RetainCount

variable {w w' : World} {labels : List Label}

/-- The slot owns one reference to the object it points at, and so keeps it alive. -/
def OwnsData (w : World) : Prop :=
  ∀ o, w.data = some o → w.retained o = w.released o + 1 ∧ 0 < w.memory.count o

/-- Every `retain` made for the slot is matched by one `release`. -/
def Settled (w : World) : Prop := ∀ o, w.retained o = w.released o

/-- In every state of the run, the slot owns its object before `dealloc`, and
its account is settled after it. -/
def Balanced (labels : List Label) : Prop :=
  ∀ first w, first <+: labels → run step start first = some w →
    (w.phase = .live → OwnsData w) ∧ (w.phase = .dead → Settled w)

/-! ## What a step can do -/

theorem of_guard {p : Prop} [Decidable p] {x : Option World} (h : (if p then x else none) = some w') :
    p ∧ x = some w' := by
  split at h
  · next hp => exact ⟨hp, h⟩
  · cases h

/-- The caller and the pools: only they own less or more, and as much as there is to own. -/
def Others (w w' : World) : Prop :=
  ∃ memory held, w' = { w with memory, held } ∧ ∀ o, memory.owned o - held o = w.memory.owned o - w.held o

/-- The methods called between `init` and `dealloc`, and `dealloc`. -/
def Method (w w' : World) : Prop :=
  (∃ o, MRCObject.data w = some (o, w')) ∨ (∃ data, setData w data = some w') ∨
  (∃ property, setProperty w property = some w') ∨ dealloc w = some w'

theorem others_givenUp {memory : Memory} {o : Nat} (hheld : 0 < w.held o)
    (h : ∀ x, memory.owned x = w.memory.owned x - refs (some o) x) :
    Others w { w with memory, held := fun x => w.held x - refs (some o) x } := by
  refine ⟨memory, _, rfl, fun x => ?_⟩
  have hx := h x
  by_cases ho : o = x
  · subst ho
    rw [refs_self] at hx ⊢
    omega
  · have hne : refs (some o) x = 0 := if_neg (by simpa using ho)
    rw [hne] at hx ⊢
    omega

theorem step_cases {label : Label} (h : step w label = some w') :
    Others w w' ∨ (label = .init ∧ w.phase = .unborn ∧ init w = some w') ∨ (w.phase = .live ∧ Method w w') := by
  cases label with
  | create =>
    cases h
    refine .inl ⟨_, _, rfl, fun x => ?_⟩
    have halloc := owned_alloc w.memory x
    simp only [note]
    omega
  | keep o =>
    obtain ⟨memory, hretain, h⟩ := Option.bind_eq_some_iff.mp h
    cases h
    refine .inl ⟨_, _, rfl, fun x => ?_⟩
    have hx := owned_retain hretain x
    simp only [note]
    omega
  | drop o =>
    obtain ⟨hheld, h⟩ := of_guard h
    obtain ⟨memory, hrelease, h⟩ := Option.bind_eq_some_iff.mp h
    cases h
    exact .inl (others_givenUp hheld (owned_release hrelease))
  | autorelease o =>
    obtain ⟨hheld, h⟩ := of_guard h
    obtain ⟨memory, hauto, h⟩ := Option.bind_eq_some_iff.mp h
    cases h
    exact .inl (others_givenUp hheld (owned_autorelease hauto))
  | newPool =>
    cases h
    exact .inl ⟨_, _, rfl, fun x => by rw [owned_push]⟩
  | drain =>
    obtain ⟨memory, hdrain, h⟩ := Option.bind_eq_some_iff.mp h
    cases h
    exact .inl ⟨_, _, rfl, fun x => by rw [owned_drain hdrain]⟩
  | init => exact .inr (.inl ⟨rfl, of_guard h⟩)
  | data =>
    obtain ⟨hphase, h⟩ := of_guard h
    obtain ⟨⟨o, read⟩, hget, rfl⟩ := Option.map_eq_some_iff.mp h
    exact .inr (.inr ⟨hphase, .inl ⟨o, hget⟩⟩)
  | setData data =>
    obtain ⟨hphase, h⟩ := of_guard h
    exact .inr (.inr ⟨hphase, .inr (.inl ⟨data, h⟩)⟩)
  | setProperty property =>
    obtain ⟨hphase, h⟩ := of_guard h
    exact .inr (.inr ⟨hphase, .inr (.inr (.inl ⟨property, h⟩))⟩)
  | dealloc =>
    obtain ⟨hphase, h⟩ := of_guard h
    exact .inr (.inr ⟨hphase, .inr (.inr (.inr h))⟩)

/-! ## The invariant -/

/-- Whose the references are: the caller's, the property's, and what is left
of the slot's. For the slot, `init`'s object counts as released once too often. -/
structure Sound (w : World) : Prop where
  owned : ∀ o, w.memory.owned o = w.held o + refs w.property o + (w.retained o - w.released o)
  ledger : w.phase ≠ .dead → ∀ o, w.retained o + refs w.initial o = w.released o + refs w.data o
  unborn : w.phase = .unborn → w.data = none ∧ w.initial = none
  live : w.phase = .live → w.initial ≠ none

theorem Sound.start : Sound start where
  owned _ := rfl
  ledger _ _ := rfl
  unborn _ := ⟨rfl, rfl⟩
  live h := by cases h

theorem Sound.others {memory : Memory} {held : Nat → Nat} (hs : Sound w)
    (h : ∀ o, memory.owned o - held o = w.memory.owned o - w.held o) :
    Sound { w with memory, held } where
  owned o := by
    have h₁ := hs.owned o
    have h₂ := h o
    show memory.owned o = held o + refs w.property o + (w.retained o - w.released o)
    omega
  ledger := hs.ledger
  unborn := hs.unborn
  live := hs.live

theorem owned_nsData {m n : Memory} {o : Nat} (h : nsData m = some (o, n)) (x : Nat) :
    n.owned x = m.owned x := by
  obtain ⟨memory, hauto, h⟩ := Option.bind_eq_some_iff.mp h
  cases h
  have hrelease := owned_autorelease hauto x
  rw [owned_alloc] at hrelease
  omega

theorem Sound.init (hs : Sound w) (hphase : w.phase = .unborn) (h : init w = some w') : Sound w' := by
  obtain ⟨⟨o, memory⟩, hdata, h⟩ := Option.bind_eq_some_iff.mp h
  cases h
  obtain ⟨hnone, hinitial⟩ := hs.unborn hphase
  refine ⟨fun x => ?_, fun _ x => ?_, (fun h => by cases h), fun _ => by simp⟩
  · have hx := hs.owned x
    rw [← owned_nsData hdata x] at hx
    exact hx
  · have hx := hs.ledger (by simp [hphase]) x
    rw [hnone, hinitial, refs_none, Nat.add_zero, Nat.add_zero] at hx
    exact congrArg (· + refs (some o) x) hx

theorem Sound.data {o : Option Nat} (hs : Sound w) (h : MRCObject.data w = some (o, w')) : Sound w' := by
  obtain ⟨kept, hkept, h⟩ := Option.bind_eq_some_iff.mp h
  obtain ⟨memory, hauto, h⟩ := Option.bind_eq_some_iff.mp h
  cases h
  refine hs.others fun x => ?_
  have h₁ := owned_send_retain hkept x
  have h₂ := owned_send_autorelease hauto x
  omega

theorem owned_replace {m kept n : Memory} {old new : Option Nat}
    (hrelease : send Memory.release m old = some kept) (hretain : send Memory.retain kept new = some n) (x : Nat) :
    n.owned x = m.owned x - refs old x + refs new x := by
  rw [owned_send_retain hretain, owned_send_release hrelease]

theorem Sound.setData {data : Option Nat} (hs : Sound w) (hphase : w.phase = .live)
    (h : setData w data = some w') : Sound w' := by
  unfold MRCObject.setData at h
  split at h
  · obtain ⟨kept, hrelease, h⟩ := Option.bind_eq_some_iff.mp h
    obtain ⟨memory, hretain, h⟩ := Option.bind_eq_some_iff.mp h
    cases h
    refine ⟨fun x => ?_, fun _ x => ?_, fun h => by simp [hphase] at h, hs.live⟩
    · have hx := hs.owned x
      have hreplace := owned_replace hrelease hretain x
      simp only [note]
      omega
    · have hx := hs.ledger (by simp [hphase]) x
      simp only [note]
      omega
  · cases h
    exact hs

theorem Sound.setProperty {property : Option Nat} (hs : Sound w) (h : setProperty w property = some w') :
    Sound w' := by
  unfold MRCObject.setProperty at h
  split at h
  · obtain ⟨kept, hrelease, h⟩ := Option.bind_eq_some_iff.mp h
    obtain ⟨memory, hretain, h⟩ := Option.bind_eq_some_iff.mp h
    cases h
    refine ⟨fun x => ?_, hs.ledger, hs.unborn, hs.live⟩
    have hx := hs.owned x
    have hreplace := owned_replace hrelease hretain x
    show memory.owned x = w.held x + refs property x + (w.retained x - w.released x)
    omega
  · cases h
    exact hs

/-- `dealloc` makes no `release` for the slot. -/
theorem dealloc_eq (h : dealloc w = some w') : ∃ memory, send Memory.release w.memory w.property = some memory ∧
    w' = { w with memory, data := none, property := none, phase := .dead } := by
  have hnil : setData { w with data := none } none = some { w with data := none } := rfl
  simp only [dealloc, hnil, Option.bind_eq_bind, Option.bind_some] at h
  obtain ⟨memory, hrelease, h⟩ := Option.bind_eq_some_iff.mp h
  cases h
  exact ⟨memory, hrelease, rfl⟩

theorem Sound.dealloc (hs : Sound w) (h : dealloc w = some w') : Sound w' := by
  obtain ⟨memory, hrelease, rfl⟩ := dealloc_eq h
  refine ⟨fun x => ?_, fun h => absurd rfl h, (fun h => by cases h), (fun h => by cases h)⟩
  have hx := hs.owned x
  have hfree := owned_send_release hrelease x
  show memory.owned x = w.held x + refs none x + (w.retained x - w.released x)
  rw [refs_none]
  omega

theorem Sound.step (hs : Sound w) {label : Label} (h : MRCObject.step w label = some w') : Sound w' := by
  rcases step_cases h with ⟨memory, held, rfl, hothers⟩ | ⟨-, hphase, h⟩ |
    ⟨hphase, ⟨o, h⟩ | ⟨data, h⟩ | ⟨property, h⟩ | h⟩
  · exact hs.others hothers
  · exact hs.init hphase h
  · exact hs.data h
  · exact hs.setData hphase h
  · exact hs.setProperty h
  · exact hs.dealloc h

theorem Sound.run (h : run MRCObject.step MRCObject.start labels = some w) : Sound w :=
  run_invariant (I := Sound) (fun _ _ _ hs h => hs.step h) Sound.start h

/-! ## What the slot owns -/

/-- Before `dealloc` the slot owns its object unless that is the one `init` stored. -/
theorem Sound.ownsData_iff (hs : Sound w) (hphase : w.phase = .live) : OwnsData w ↔ w.data ≠ w.initial := by
  have hledger := hs.ledger (by simp [hphase])
  constructor
  · intro hown hsame
    cases hdata : w.data with
    | none => exact hs.live hphase (hsame ▸ hdata)
    | some o =>
      have ho := hledger o
      rw [← hsame, hdata, refs_self] at ho
      have := (hown o hdata).1
      omega
  · intro hne o hdata
    have ho := hledger o
    have hinitial : refs w.initial o = 0 := if_neg fun h => hne (hdata.trans h.symm)
    rw [hdata, refs_self, hinitial] at ho
    have hretained : w.retained o = w.released o + 1 := by omega
    refine ⟨hretained, alive_of_owned ?_⟩
    rw [hs.owned]
    omega

/-- After `dealloc` the slot's account is settled only if the slot still
pointed at the object `init` stored. -/
theorem Sound.settled_iff (hs : Sound w) (hphase : w.phase = .live) (h : MRCObject.dealloc w = some w') :
    Settled w' ↔ w.data = w.initial := by
  have hledger := hs.ledger (by simp [hphase])
  obtain ⟨memory, -, rfl⟩ := dealloc_eq h
  constructor
  · intro hsettled
    obtain ⟨o, hinitial⟩ := Option.ne_none_iff_exists'.mp (hs.live hphase)
    have ho := hledger o
    rw [hinitial, refs_self, show w.retained o = w.released o from hsettled o] at ho
    by_contra hne
    have hdata : refs w.data o = 0 := if_neg fun h => hne (h.trans hinitial.symm)
    omega
  · intro hsame o
    have ho := hledger o
    rw [hsame] at ho
    show w.retained o = w.released o
    omega

/-! ## Every run -/

theorem init_eq (h : init w = some w') : w'.phase = .live ∧ w'.data = w'.initial := by
  obtain ⟨⟨o, memory⟩, -, h⟩ := Option.bind_eq_some_iff.mp h
  cases h
  exact ⟨rfl, rfl⟩

theorem step_unborn {label : Label} (hphase : w.phase = .unborn) (hlabel : label ≠ .init)
    (h : step w label = some w') : w'.phase = .unborn := by
  rcases step_cases h with ⟨memory, held, rfl, -⟩ | ⟨hinit, -, -⟩ | ⟨hlive, -⟩
  · exact hphase
  · exact absurd hinit hlabel
  · simp [hphase] at hlive

theorem exists_after_init {s : World} (hs : s.phase = .unborn) (h : run step s labels = some w)
    (hw : w.phase ≠ .unborn) :
    ∃ first t, first <+: labels ∧ run step s first = some t ∧ t.phase = .live ∧ t.data = t.initial := by
  induction labels generalizing s with
  | nil =>
    cases h
    exact absurd hs hw
  | cons label labels ih =>
    obtain ⟨s', hstep, h⟩ := run_cons.mp h
    by_cases hlabel : label = .init
    · subst hlabel
      exact ⟨[.init], s', by simp, run_cons.mpr ⟨s', hstep, rfl⟩, init_eq (of_guard hstep).2⟩
    · obtain ⟨first, t, hfirst, ht, hlive⟩ := ih (step_unborn hs hlabel hstep) h
      exact ⟨label :: first, t, by simpa using hfirst, run_cons.mpr ⟨s', hstep, ht⟩, hlive⟩

/-- **The account of the data slot balances in no run.** Before `dealloc` the
slot owns its object exactly when that is not the one `init` stored, and
after `dealloc` the account is settled exactly when it is. -/
theorem data_never_balanced (h : run step start labels = some w) (hphase : w.phase ≠ .unborn) :
    ¬ Balanced labels ∧
    (w.phase = .live → (OwnsData w ↔ w.data ≠ w.initial)) ∧
    (w.phase = .live → ∀ w', dealloc w = some w' → (Settled w' ↔ w.data = w.initial)) := by
  have hs := Sound.run h
  refine ⟨fun hbalanced => ?_, hs.ownsData_iff, fun hlive w' hw' => hs.settled_iff hlive hw'⟩
  obtain ⟨first, t, hfirst, ht, hlive, hsame⟩ := exists_after_init rfl h hphase
  have hown := (hbalanced first t hfirst ht).1 hlive
  exact ((Sound.run ht).ownsData_iff hlive).mp hown hsame

/-- The slot is set to an object of the caller's, and the caller gives its reference up. -/
def sampleRun : List Label := [.create, .init, .setData (some 0), .drop 0]

def sampleEnd : World := (run step start sampleRun).getD start

theorem data_never_balanced_sample :
    ¬ Balanced sampleRun ∧
    (sampleEnd.phase = .live → (OwnsData sampleEnd ↔ sampleEnd.data ≠ sampleEnd.initial)) ∧
    (sampleEnd.phase = .live → ∀ w', dealloc sampleEnd = some w' →
      (Settled w' ↔ sampleEnd.data = sampleEnd.initial)) :=
  data_never_balanced (w := sampleEnd) rfl (by decide)

/-- The pool frees the object the slot points at. -/
theorem data_freed_by_pool :
    ¬ ∀ labels w, run step start labels = some w → w.phase = .dead → Balanced labels := by
  intro hall
  have hbalanced := hall [.init, .drain, .dealloc] _ rfl rfl
  have hown := (hbalanced [.init, .drain] _ (by decide) rfl).1 rfl
  exact absurd (hown 0 rfl).2 (by decide)

end LearningDemo.MRCObject
