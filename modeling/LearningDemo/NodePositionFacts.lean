/-
`lastKNode` and `middleNode` on every list that ends.

The lead of `lastKNode` stops when `k` is used up or the list is, and the
walk in step that follows keeps its distance (`lead_loop`, `trail_loop`).
The turns of `middleNode` are those of `nodeHasCircle`, but its condition
follows `before`: right while the list has an odd number of nodes, and the
fault of every even one from four on (`middleNode_middle_iff`).
-/
import LearningDemo.CircleFacts

namespace LearningDemo.LinkList

open Imperative Linked

variable {heap : Heap} {header p q r : Ptr} {as bs xs zs : List Addr} {fuel : Nat} {k : Int}

/-! ## `lastKNode` -/

/-- The lead passes `as` when it can stop behind it, and not before. -/
theorem lead_loop (h : Path heap.next p as q) (hk : as.length ≤ k)
    (hstop : leadMore ⟨q, k - as.length⟩ = .ok false) (hfuel : as.length < fuel) :
    whileLoop leadMore (skipTurn heap) fuel ⟨p, k⟩ = .ok ⟨q, k - as.length⟩ := by
  induction as generalizing p k fuel with
  | nil =>
    obtain rfl := path_nil.mp h
    obtain ⟨n, rfl⟩ : ∃ n, fuel = n + 1 := ⟨fuel - 1, by omega⟩
    rw [List.length_nil, Int.natCast_zero, Int.sub_zero] at hstop ⊢
    exact whileLoop_stop hstop
  | cons a as ih =>
    obtain ⟨rfl, has⟩ := path_cons.mp h
    obtain ⟨n, rfl⟩ : ∃ n, fuel = n + 1 := ⟨fuel - 1, by omega⟩
    rw [List.length_cons] at hk hfuel
    have hmore : leadMore ⟨some a, k⟩ = .ok true := by
      simp [leadMore]; omega
    have hturn : skipTurn heap ⟨some a, k⟩ = .ok ⟨heap.next a, k - 1⟩ := by
      simp [skipTurn]
    have hrest : k - ((a :: as).length : Nat) = k - 1 - as.length := by
      rw [List.length_cons]; omega
    rw [hrest] at hstop ⊢
    rw [whileLoop_turn hmore hturn]
    exact ih has (by omega) hstop (by omega)

/-- While the lead walks the rest of the list, the other goes as far. -/
theorem trail_loop (hq : IsList heap.next q zs) (hp : Path heap.next p bs r) (hlen : bs.length = zs.length)
    (hfuel : zs.length < fuel) : whileLoop trailMore (trailTurn heap) fuel ⟨q, p⟩ = .ok ⟨none, r⟩ := by
  induction zs generalizing p q bs fuel with
  | nil =>
    obtain rfl := List.length_eq_zero_iff.mp hlen
    obtain rfl := isList_nil.mp hq
    obtain rfl := path_nil.mp hp
    obtain ⟨n, rfl⟩ : ∃ n, fuel = n + 1 := ⟨fuel - 1, by omega⟩
    exact whileLoop_stop (c := trailMore) rfl
  | cons z zs ih =>
    cases bs with
    | nil => simp at hlen
    | cons b bs =>
      obtain ⟨rfl, hzs⟩ := isList_cons.mp hq
      obtain ⟨rfl, hbs⟩ := path_cons.mp hp
      obtain ⟨n, rfl⟩ : ∃ n, fuel = n + 1 := ⟨fuel - 1, by omega⟩
      simp only [List.length_cons] at hfuel hlen
      have hturn : trailTurn heap ⟨some z, some b⟩ = .ok ⟨heap.next z, heap.next b⟩ := rfl
      rw [whileLoop_turn (c := trailMore) rfl hturn]
      exact ih hzs hbs (by omega) (by omega)

theorem lastKNode_beyond (h : IsList heap.next header xs) (hk : xs.length < k) (hfuel : xs.length < fuel) :
    lastKNode fuel heap header k = .ok none := by
  unfold lastKNode
  split
  · rfl
  · rw [lead_loop h (by omega) rfl hfuel, ok_bind, if_pos (show k - xs.length > 0 by omega)]
    rfl

theorem lastKNode_within (h : IsList heap.next header xs) (h0 : 0 ≤ k) (hk : k ≤ xs.length)
    (hfuel : xs.length < fuel) : lastKNode fuel heap header k = .ok xs[xs.length - k.toNat]? := by
  unfold lastKNode
  by_cases hnull : header = none
  · obtain rfl := IsList.unique h (isList_nil.mpr hnull)
    simp [hnull]
  rw [if_neg (by simp [hnull]; omega)]
  -- the list, cut after `k` nodes for the lead, and `k` before its end for the other
  have hlead := h
  rw [← List.take_append_drop k.toNat xs] at hlead
  obtain ⟨q, has, hzs⟩ := isList_append.mp hlead
  have htrail := h
  rw [← List.take_append_drop (xs.length - k.toNat) xs] at htrail
  obtain ⟨r, hbs, hrest⟩ := isList_append.mp htrail
  have hused : k - ((xs.take k.toNat).length : Nat) = 0 := by
    rw [List.length_take]; omega
  have hstop : leadMore ⟨q, k - ((xs.take k.toNat).length : Nat)⟩ = .ok false := by
    simp only [leadMore, hused]
    simp
  rw [lead_loop has (by omega) hstop (by simp; omega), ok_bind, hused, if_neg (by simp),
    trail_loop hzs hbs (by simp) (by simp; omega)]
  show Except.ok r = _
  rw [hrest.head, List.head?_drop]

/-- **`lastKNode` returns the `k`-th node from the end,** and `NULL` when
there is none, for every list that ends and every `k`. -/
theorem lastKNode_from_end (h : IsList heap.next header xs) (k : Int) :
    Returns (fun fuel => lastKNode fuel heap header k)
      (· = if 1 ≤ k ∧ k ≤ xs.length then xs[xs.length - k.toNat]? else none) := by
  refine ⟨xs.length + 1, fun fuel hfuel => ⟨_, ?_, rfl⟩⟩
  show lastKNode fuel heap header k = _
  by_cases h0 : k < 0
  · rw [if_neg (by omega)]
    simp [lastKNode, h0]
  by_cases hk : k ≤ xs.length
  · rw [lastKNode_within h (by omega) hk hfuel]
    split
    · rfl
    · have hzero : k = 0 := by omega
      simp [hzero]
  · rw [if_neg (by omega), lastKNode_beyond h (by omega) hfuel]

theorem lastKNode_second :
    Returns (fun fuel => lastKNode fuel (.ofList [(1, some 1), (2, some 2), (3, none)]) (some 0) 2)
      (· = if 1 ≤ (2 : Int) ∧ (2 : Int) ≤ [0, 1, 2].length then [0, 1, 2][[0, 1, 2].length - (2 : Int).toNat]?
        else none) :=
  lastKNode_from_end (by decide) 2

/-! ## `middleNode` -/

theorem middleTurn_eq (s : Chase) : middleTurn heap s = chaseStep heap s := by
  obtain ⟨before, behind⟩ := s
  cases before with
  | none => rfl
  | some a =>
    cases behind with
    | none => cases hn : heap.next a <;> simp [middleTurn, chaseStep, hn]
    | some b => cases hn : heap.next a <;> simp [middleTurn, chaseStep, hn]

theorem middleMore_at (h : IsList heap.next header xs) {t : Nat} (ht : 2 * t < xs.length) :
    middleMore heap (chaseAt heap header t) = .ok (decide (2 * t + 1 < xs.length)) := by
  have hsome : (walk heap.next header (2 * t)).isSome := by simp [h.walk_eq, ht]
  unfold middleMore chaseAt
  rw [getNext_walk hsome, ok_bind, h.walk_eq]
  by_cases hlast : 2 * t + 1 < xs.length
  · simp [hlast]
  · simp [hlast]

/-- As long as `before` has a next node, the turns go on. -/
theorem middle_turns (h : IsList heap.next header xs) {m : Nat} (hm : 2 * m ≤ xs.length) (n : Nat) :
    whileLoop (middleMore heap) (middleTurn heap) (n + m) ⟨header, header⟩ =
      whileLoop (middleMore heap) (middleTurn heap) n (chaseAt heap header m) := by
  refine whileLoop_run (s := chaseAt heap header) (fun t ht => ⟨?_, ?_⟩) n
  · rw [middleMore_at h (by omega), decide_eq_true (by omega)]
  · rw [middleTurn_eq]
    exact chaseStep_at (by simp [h.walk_eq]; omega)

theorem middle_loop_odd (h : IsList heap.next header xs) {m : Nat} (hm : xs.length = 2 * m + 1)
    (hfuel : m < fuel) : whileLoop (middleMore heap) (middleTurn heap) fuel ⟨header, header⟩ =
      .ok (chaseAt heap header m) := by
  obtain ⟨n, rfl⟩ : ∃ n, fuel = n + 1 + m := ⟨fuel - m - 1, by omega⟩
  rw [middle_turns h (by omega)]
  exact whileLoop_stop (by rw [middleMore_at h (by omega), decide_eq_false (by omega)])

theorem middle_loop_even (h : IsList heap.next header xs) {m : Nat} (hm : xs.length = 2 * m)
    (hfuel : m < fuel) : whileLoop (middleMore heap) (middleTurn heap) fuel ⟨header, header⟩ =
      .error .null := by
  obtain ⟨n, rfl⟩ : ∃ n, fuel = n + 1 + m := ⟨fuel - m - 1, by omega⟩
  rw [middle_turns h (by omega)]
  have hpast : walk heap.next header (2 * m) = none := by simp [h.walk_eq, hm]
  exact whileLoop_fault (by simp [middleMore, chaseAt, hpast])

theorem middleNode_short (h : IsList heap.next header xs) (hne : xs ≠ []) (hlen : xs.length ≤ 2) :
    middleNode fuel heap header = .ok xs[(xs.length - 1) / 2]? := by
  match xs, h, hlen with
  | [], _, _ => exact absurd rfl hne
  | [a], h, _ =>
    obtain ⟨rfl, hend⟩ := isList_cons.mp h
    simp [middleNode, isList_nil.mp hend]
  | [a, b], h, _ =>
    obtain ⟨rfl, hb⟩ := isList_cons.mp h
    obtain ⟨hab, hend⟩ := isList_cons.mp hb
    simp [middleNode, hab, isList_nil.mp hend]

theorem middleNode_long (h : IsList heap.next header xs) (hlen : 3 ≤ xs.length) :
    middleNode fuel heap header = (do
      let s ← whileLoop (middleMore heap) (middleTurn heap) fuel { before := header, behind := header }
      pure s.behind) := by
  match xs, h, hlen with
  | a :: b :: c :: _, h, _ =>
    obtain ⟨rfl, hb⟩ := isList_cons.mp h
    obtain ⟨hab, hc⟩ := isList_cons.mp hb
    have hbc : heap.next b = some c := (isList_cons.mp hc).1
    simp [middleNode, hab, hbc]

theorem middleNode_odd (h : IsList heap.next header xs) (hlen : 3 ≤ xs.length) (hodd : xs.length % 2 = 1)
    (hfuel : xs.length ≤ fuel) : middleNode fuel heap header = .ok xs[(xs.length - 1) / 2]? := by
  rw [middleNode_long h hlen, middle_loop_odd h (m := (xs.length - 1) / 2) (by omega) (by omega), ← h.walk_eq]
  rfl

theorem middleNode_even (h : IsList heap.next header xs) (hlen : 3 ≤ xs.length) (heven : xs.length % 2 = 0)
    (hfuel : xs.length ≤ fuel) : middleNode fuel heap header = .error .null := by
  rw [middleNode_long h hlen, middle_loop_even h (m := xs.length / 2) (by omega) (by omega)]
  rfl

/-- **`middleNode` is right on two nodes and on every odd number of them;**
every other list makes it follow `NULL`. -/
theorem middleNode_middle_iff (h : IsList heap.next header xs) (hne : xs ≠ []) :
    Returns (fun fuel => middleNode fuel heap header)
      (fun node => node = xs[(xs.length - 1) / 2]? ∨ node = xs[xs.length / 2]?) ↔
      xs.length % 2 = 1 ∨ xs.length = 2 := by
  have hpos : 0 < xs.length := List.length_pos_iff.mpr hne
  constructor
  · intro hret
    by_contra hlen
    exact not_returns_of_error (fun _ hfuel => middleNode_even h (by omega) (by omega) hfuel) hret
  · intro hlen
    refine ⟨xs.length, fun fuel hfuel => ⟨_, ?_, .inl rfl⟩⟩
    by_cases hlong : 3 ≤ xs.length
    · exact middleNode_odd h hlong (by omega) hfuel
    · exact middleNode_short h hne (by omega)

theorem middleNode_middle_three :
    Returns (fun fuel => middleNode fuel (.ofList [(1, some 1), (2, some 2), (3, none)]) (some 0))
      (fun node => node = [0, 1, 2][([0, 1, 2].length - 1) / 2]? ∨ node = [0, 1, 2][[0, 1, 2].length / 2]?) ↔
      [0, 1, 2].length % 2 = 1 ∨ [0, 1, 2].length = 2 :=
  middleNode_middle_iff (by decide) (by simp)

/-- A list of four nodes. -/
def middleSample : Heap := .ofList [(1, some 1), (2, some 2), (3, some 3), (4, none)]

theorem middleNode_follows_null : IsList middleSample.next (some 0) [0, 1, 2, 3] ∧
    (∀ fuel, 4 ≤ fuel → middleNode fuel middleSample (some 0) = .error .null) ∧
    ¬ Returns (fun fuel => middleNode fuel middleSample (some 0))
      (fun node => node = [0, 1, 2, 3][([0, 1, 2, 3].length - 1) / 2]? ∨
        node = [0, 1, 2, 3][[0, 1, 2, 3].length / 2]?) := by
  have hlist : IsList middleSample.next (some 0) [0, 1, 2, 3] := by decide
  have hfault : ∀ fuel, 4 ≤ fuel → middleNode fuel middleSample (some 0) = .error .null :=
    fun _ hfuel => middleNode_even hlist (by simp) (by simp) hfuel
  exact ⟨hlist, hfault, not_returns_of_error hfault⟩

end LearningDemo.LinkList
