/-
The nearest of a list in one pass: what is kept gives way to everything that
is as near or nearer (`scan`), so what is left is the last of the nearest
(`LastNearest`). What has no distance is passed over.
-/
import Mathlib.Order.Lattice
import Mathlib.Data.List.Induction

namespace Nearest

variable {α β : Type} [LinearOrder β] {dist : α → Option β} {xs : List α} {top : β}

/-- `x` is the last of the nearest in `xs`, at the distance `d`. -/
structure LastNearest (dist : α → Option β) (xs : List α) (x : α) (d : β) : Prop where
  dist_eq : dist x = some d
  split : ∃ front back, xs = front ++ x :: back ∧
    (∀ y ∈ front, ∀ e, dist y = some e → d ≤ e) ∧ ∀ y ∈ back, ∀ e, dist y = some e → d < e

/-- What is kept, and its distance, after one more element. -/
def step (dist : α → Option β) (best : Option α × β) (x : α) : Option α × β :=
  match dist x with
  | none => best
  | some d => if d ≤ best.2 then (some x, d) else best

def scan (dist : α → Option β) (top : β) (xs : List α) : Option α × β := xs.foldl (step dist) (none, top)

theorem scan_concat (x : α) : scan dist top (xs ++ [x]) = step dist (scan dist top xs) x := by
  simp [scan]

theorem LastNearest.mem {x : α} {d : β} (h : LastNearest dist xs x d) : x ∈ xs := by
  obtain ⟨front, back, rfl, -⟩ := h.split
  simp

theorem LastNearest.le {x y : α} {d e : β} (h : LastNearest dist xs x d) (hy : y ∈ xs) (hd : dist y = some e) :
    d ≤ e := by
  obtain ⟨front, back, rfl, hfront, hback⟩ := h.split
  rcases List.mem_append.mp hy with hin | hin
  · exact hfront y hin e hd
  · rcases List.mem_cons.mp hin with rfl | hin
    · exact (Option.some.inj (h.dist_eq.symm.trans hd)).le
    · exact (hback y hin e hd).le

/-- What stands behind and is farther changes nothing. -/
theorem LastNearest.concat {x y : α} {d : β} (h : LastNearest dist xs x d) (hy : ∀ e, dist y = some e → d < e) :
    LastNearest dist (xs ++ [y]) x d := by
  obtain ⟨front, back, rfl, hfront, hback⟩ := h.split
  refine ⟨h.dist_eq, front, back ++ [y], by simp, hfront, fun z hz => ?_⟩
  rcases List.mem_append.mp hz with hin | hin
  · exact hback z hin
  · rw [List.mem_singleton] at hin
    subst hin
    exact hy

/-- What the pass has kept: nothing, where nothing has a distance, or the last of the nearest. -/
def Kept (dist : α → Option β) (top : β) (xs : List α) : Option α × β → Prop
  | (none, d) => d = top ∧ ∀ x ∈ xs, dist x = none
  | (some x, d) => LastNearest dist xs x d

/-- The pass goes on as it should; at first every distance is within the bound. -/
theorem Kept.step {x : α} {kept : Option α × β} (h : Kept dist top xs kept)
    (htop : ∀ d, dist x = some d → d ≤ top) : Kept dist top (xs ++ [x]) (step dist kept x) := by
  obtain ⟨best, d⟩ := kept
  unfold Nearest.step
  cases hx : dist x with
  | none =>
    cases best with
    | none =>
      refine ⟨h.1, fun y hy => ?_⟩
      rcases List.mem_append.mp hy with hin | hin
      · exact h.2 y hin
      · rw [List.mem_singleton.mp hin, hx]
    | some b => exact LastNearest.concat h fun e he => by rw [hx] at he; cases he
  | some e =>
    dsimp only
    split
    · rename_i hle
      refine ⟨hx, xs, [], rfl, fun y hy e' he' => ?_, by simp⟩
      cases best with
      | none =>
        rw [h.2 y hy] at he'
        cases he'
      | some b => exact hle.trans (LastNearest.le h hy he')
    · rename_i hlt
      cases best with
      | none =>
        obtain ⟨rfl, -⟩ := h
        exact absurd (htop e hx) hlt
      | some b =>
        refine LastNearest.concat h fun e' he' => ?_
        rw [hx, Option.some.injEq] at he'
        exact he' ▸ not_le.mp hlt

theorem scan_kept (htop : ∀ x ∈ xs, ∀ d, dist x = some d → d ≤ top) : Kept dist top xs (scan dist top xs) := by
  induction xs using List.reverseRecOn with
  | nil => exact ⟨rfl, by simp⟩
  | append_singleton xs x ih =>
    rw [scan_concat]
    exact (ih fun y hy => htop y (List.mem_append_left _ hy)).step (htop x (by simp))

end Nearest
