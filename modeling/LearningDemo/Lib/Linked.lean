/-
Singly linked structures: what following a `next` function visits.

`Path next p xs q` names the cells between two pointers, `IsList next p xs`
those up to the end. A write to one cell is a `Function.update` of `next`;
`Path.update` says when a path does not see it. Cells that never lead out
of a set (`Confined`) or never end (`Endless`) bound every path inside.
-/
import Mathlib.Logic.Function.Basic
import Mathlib.Data.List.Nodup

namespace Linked

variable {α : Type}

/-- Following `next` from `p` visits the cells `xs`, in order, and stands at `q`. -/
def Path (next : α → Option α) : Option α → List α → Option α → Prop
  | p, [], q => p = q
  | p, x :: xs, q => p = some x ∧ Path next (next x) xs q

/-- Following `next` from `p` visits the cells `xs` and ends. -/
def IsList (next : α → Option α) (p : Option α) (xs : List α) : Prop := Path next p xs none

instance Path.decidable [DecidableEq α] (next : α → Option α) :
    ∀ (p : Option α) (xs : List α) (q : Option α), Decidable (Path next p xs q)
  | p, [], q => inferInstanceAs (Decidable (p = q))
  | p, x :: xs, q =>
    have := Path.decidable next (next x) xs q
    inferInstanceAs (Decidable (p = some x ∧ Path next (next x) xs q))

instance IsList.decidable [DecidableEq α] (next : α → Option α) (p : Option α) (xs : List α) :
    Decidable (IsList next p xs) := Path.decidable next p xs none

variable {next next' : α → Option α} {p q r : Option α} {xs ys : List α} {x y : α}

@[simp] theorem path_nil : Path next p [] q ↔ p = q := Iff.rfl

@[simp] theorem path_cons : Path next p (x :: xs) q ↔ p = some x ∧ Path next (next x) xs q := Iff.rfl

@[simp] theorem isList_nil : IsList next p [] ↔ p = none := Iff.rfl

@[simp] theorem isList_cons : IsList next p (x :: xs) ↔ p = some x ∧ IsList next (next x) xs := Iff.rfl

theorem path_append : Path next p (xs ++ ys) r ↔ ∃ q, Path next p xs q ∧ Path next q ys r := by
  induction xs generalizing p with
  | nil => simp
  | cons x xs ih => simp [ih, and_assoc]

theorem path_snoc : Path next p (xs ++ [x]) q ↔ Path next p xs (some x) ∧ next x = q := by
  simp [path_append]

theorem isList_append : IsList next p (xs ++ ys) ↔ ∃ q, Path next p xs q ∧ IsList next q ys :=
  path_append

theorem Path.head (h : Path next p xs q) : p = xs.head?.or q := by
  cases xs with
  | nil => simpa using h
  | cons x xs => simpa using h.1

theorem IsList.head (h : IsList next p xs) : p = xs.head? := by
  simpa using Path.head h

theorem IsList.unique (h : IsList next p xs) (h' : IsList next p ys) : xs = ys := by
  induction xs generalizing p ys with
  | nil =>
    cases ys with
    | nil => rfl
    | cons y ys => simp only [isList_nil, isList_cons] at h h'; rw [h] at h'; simp at h'
  | cons x xs ih =>
    cases ys with
    | nil => simp only [isList_nil] at h'; subst h'; simp at h
    | cons y ys =>
      obtain ⟨hx, hxs⟩ := isList_cons.mp h
      obtain ⟨hy, hys⟩ := isList_cons.mp h'
      obtain rfl : x = y := Option.some.inj (hx.symm.trans hy)
      rw [ih hxs hys]

/-- A list goes on from where a path stands. -/
theorem IsList.after_path (hp : Path next p xs q) (h : IsList next p ys) :
    ∃ zs, ys = xs ++ zs ∧ IsList next q zs := by
  induction xs generalizing p ys with
  | nil =>
    obtain rfl := path_nil.mp hp
    exact ⟨ys, rfl, h⟩
  | cons x xs ih =>
    obtain ⟨rfl, hxs⟩ := path_cons.mp hp
    cases ys with
    | nil => simp at h
    | cons y ys =>
      obtain ⟨hy, hys⟩ := isList_cons.mp h
      obtain rfl := Option.some.inj hy
      obtain ⟨zs, rfl, hzs⟩ := ih hxs hys
      exact ⟨zs, rfl, hzs⟩

theorem Path.next_mem (h : Path next p xs q) (hx : x ∈ xs) :
    (∃ y ∈ xs, next x = some y) ∨ next x = q := by
  induction xs generalizing p with
  | nil => simp at hx
  | cons z xs ih =>
    obtain ⟨-, hxs⟩ := path_cons.mp h
    rcases List.mem_cons.mp hx with rfl | hx
    · cases xs with
      | nil => exact .inr hxs
      | cons y xs => exact .inl ⟨y, by simp, hxs.1⟩
    · rcases ih hxs hx with ⟨y, hy, he⟩ | he
      · exact .inl ⟨y, List.mem_cons_of_mem z hy, he⟩
      · exact .inr he

theorem IsList.nodup (h : IsList next p xs) : xs.Nodup := by
  induction xs generalizing p with
  | nil => exact List.nodup_nil
  | cons x xs ih =>
    obtain ⟨rfl, h'⟩ := isList_cons.mp h
    refine List.nodup_cons.mpr ⟨fun hx => ?_, ih h'⟩
    obtain ⟨ys, zs, rfl⟩ := List.append_of_mem hx
    obtain ⟨q, -, hz⟩ := isList_append.mp h'
    obtain ⟨rfl, hz'⟩ := isList_cons.mp hz
    have heq := IsList.unique h (isList_cons.mpr ⟨rfl, hz'⟩)
    have hlen := congrArg List.length heq
    simp at hlen
    omega

/-- Two lists are apart up to a point and one list from there on. -/
theorem IsList.joint (hx : IsList next p xs) (hy : IsList next q ys) :
    ∃ as bs zs, xs = as ++ zs ∧ ys = bs ++ zs ∧ (∀ a ∈ as, a ∉ ys) ∧ ∀ b ∈ bs, b ∉ xs := by
  classical
  induction xs generalizing p with
  | nil => exact ⟨[], ys, [], rfl, by simp, by simp, by simp⟩
  | cons x xs ih =>
    obtain ⟨-, hxs⟩ := isList_cons.mp hx
    by_cases hmem : x ∈ ys
    · -- the two lists run together from `x` on
      obtain ⟨bs, cs, rfl⟩ := List.append_of_mem hmem
      obtain ⟨r, -, hcs⟩ := isList_append.mp hy
      obtain rfl := IsList.unique hxs (isList_cons.mp hcs).2
      refine ⟨[], bs, x :: xs, rfl, rfl, by simp, fun b hb hb' => ?_⟩
      exact (List.nodup_append'.mp hy.nodup).2.2 hb hb'
    · obtain ⟨as, bs, zs, rfl, rfl, ha, hb⟩ := ih hxs
      refine ⟨x :: as, bs, zs, rfl, rfl, ?_, fun b hbs hb' => ?_⟩
      · exact List.forall_mem_cons.mpr ⟨hmem, ha⟩
      · rcases List.mem_cons.mp hb' with rfl | hb'
        · exact hmem (List.mem_append_left zs hbs)
        · exact hb b hbs hb'

/-! ## Writes -/

theorem Path.congr (h : Path next p xs q) (heq : ∀ x ∈ xs, next' x = next x) : Path next' p xs q := by
  induction xs generalizing p with
  | nil => exact h
  | cons x xs ih =>
    obtain ⟨hp, hxs⟩ := path_cons.mp h
    refine path_cons.mpr ⟨hp, ?_⟩
    rw [heq x (by simp)]
    exact ih hxs fun y hy => heq y (by simp [hy])

section Update

variable [DecidableEq α]

theorem Path.update (h : Path next p xs q) (hx : x ∉ xs) :
    Path (Function.update next x r) p xs q :=
  h.congr fun y hy => Function.update_of_ne (fun he => hx (by rwa [← he])) _ _

theorem IsList.update (h : IsList next p xs) (hx : x ∉ xs) :
    IsList (Function.update next x r) p xs := Path.update h hx

/-- A write to the cell a path has just reached sends it on. -/
theorem Path.update_last (h : Path next p xs (some x)) (hx : x ∉ xs) :
    Path (Function.update next x r) p (xs ++ [x]) r :=
  path_snoc.mpr ⟨h.update hx, Function.update_self _ _ _⟩

end Update

/-! ## Sets of cells -/

/-- No pointer leads out of `K`. -/
def Confined (next : α → Option α) (K : α → Prop) : Prop := ∀ x, K x → ∀ y, next x = some y → K y

/-- Every cell of `S` leads to a cell of `S`. -/
def Endless (next : α → Option α) (S : α → Prop) : Prop := ∀ x, S x → ∃ y, next x = some y ∧ S y

theorem Confined.path {K : α → Prop} (hK : Confined next K) (hp : ∀ y, p = some y → K y)
    (h : Path next p xs q) : ∀ y ∈ xs, K y := by
  induction xs generalizing p with
  | nil => simp
  | cons x xs ih =>
    obtain ⟨hx, hxs⟩ := path_cons.mp h
    intro y hy
    rcases List.mem_cons.mp hy with rfl | hy
    · exact hp y hx
    · exact ih (hK x (hp x hx)) hxs y hy

theorem Endless.not_isList {S : α → Prop} (hS : Endless next S) (hx : S x) :
    ¬ IsList next (some x) xs := by
  induction xs generalizing x with
  | nil => simp
  | cons y xs ih =>
    intro h
    obtain ⟨he, h⟩ := isList_cons.mp h
    obtain rfl := Option.some.inj he
    obtain ⟨z, hz, hSz⟩ := hS x hx
    rw [hz] at h
    exact ih hSz h

theorem Confined.update [DecidableEq α] {K : α → Prop} (hK : Confined next K)
    (hr : ∀ y, r = some y → K y) : Confined (Function.update next x r) K := by
  intro y hy z hz
  by_cases hyx : y = x
  · subst hyx; rw [Function.update_self] at hz; exact hr z hz
  · rw [Function.update_of_ne hyx] at hz; exact hK y hy z hz

theorem Endless.update [DecidableEq α] {S : α → Prop} (hS : Endless next S) (hy : S y) :
    Endless (Function.update next x (some y)) S := by
  intro z hz
  by_cases hzx : z = x
  · subst hzx; exact ⟨y, Function.update_self _ _ _, hy⟩
  · rw [Function.update_of_ne hzx]; exact hS z hz

end Linked
