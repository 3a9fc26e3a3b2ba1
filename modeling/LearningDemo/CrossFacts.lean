/-
`crossNode` and `nodeCross` on two lists that end.

Two such lists are apart up to their joint and one list from there on
(`IsList.joint`), so both are as far from the end there: after the longer
one has gone its difference, a walk in step reaches the joint in both at
once and meets no equal nodes before it (`walkPair_joint`). Their last
nodes are the same exactly when there is a joint at all.
-/
import LearningDemo.LinkList

namespace LearningDemo.LinkList

open Imperative Linked

variable {heap : Heap} {node1 node2 p q r : Ptr} {as bs xs ys zs : List Addr} {fuel : Nat}

/-! ## The loops -/

theorem length_loop (h : IsList heap.next p xs) (hfuel : xs.length < fuel) (len : Int) :
    whileLoop lengthMore (lengthTurn heap) fuel ⟨p, len⟩ = .ok ⟨none, len + xs.length⟩ := by
  induction xs generalizing p len fuel with
  | nil =>
    obtain rfl := isList_nil.mp h
    obtain ⟨n, rfl⟩ : ∃ n, fuel = n + 1 := ⟨fuel - 1, by omega⟩
    rw [whileLoop_stop (c := lengthMore) rfl]
    simp
  | cons a xs ih =>
    obtain ⟨rfl, hxs⟩ := isList_cons.mp h
    obtain ⟨n, rfl⟩ : ∃ n, fuel = n + 1 := ⟨fuel - 1, by omega⟩
    rw [List.length_cons] at hfuel
    have hturn : lengthTurn heap ⟨some a, len⟩ = .ok ⟨heap.next a, len + 1⟩ := rfl
    rw [whileLoop_turn (c := lengthMore) rfl hturn, ih hxs (by omega), List.length_cons]
    congr 2
    omega

theorem listLength_list (h : IsList heap.next p xs) (hfuel : xs.length < fuel) :
    listLength fuel heap p = .ok xs.length := by
  unfold listLength
  rw [length_loop h hfuel 0]
  simp

theorem skip_loop (h : Path heap.next p as q) (hfuel : as.length < fuel) :
    whileLoop skipMore (skipTurn heap) fuel ⟨p, as.length⟩ = .ok ⟨q, 0⟩ := by
  induction as generalizing p fuel with
  | nil =>
    obtain rfl := path_nil.mp h
    obtain ⟨n, rfl⟩ : ∃ n, fuel = n + 1 := ⟨fuel - 1, by omega⟩
    rw [whileLoop_stop (c := skipMore) rfl]
    rfl
  | cons a as ih =>
    obtain ⟨rfl, has⟩ := path_cons.mp h
    obtain ⟨n, rfl⟩ : ∃ n, fuel = n + 1 := ⟨fuel - 1, by omega⟩
    rw [List.length_cons] at hfuel
    have hmore : skipMore ⟨some a, (as.length + 1 : Nat)⟩ = .ok true := by
      simp [skipMore]
    have hturn : skipTurn heap ⟨some a, (as.length + 1 : Nat)⟩ = .ok ⟨heap.next a, as.length⟩ := by
      simp [skipTurn]
    rw [List.length_cons, whileLoop_turn hmore hturn, ih has (by omega)]

theorem skipNodes_path {k : Int} (h : Path heap.next p as q) (hk : k = as.length) (hfuel : as.length < fuel) :
    skipNodes fuel heap p k = .ok q := by
  subst hk
  unfold skipNodes
  rw [skip_loop h hfuel]
  rfl

theorem lastNode_list (h : IsList heap.next p xs) (hne : xs ≠ []) (hfuel : xs.length ≤ fuel) :
    lastNode fuel heap p = .ok xs.getLast? := by
  unfold lastNode
  induction xs generalizing p fuel with
  | nil => exact absurd rfl hne
  | cons a xs ih =>
    obtain ⟨rfl, hxs⟩ := isList_cons.mp h
    obtain ⟨n, rfl⟩ : ∃ n, fuel = n + 1 := ⟨fuel - 1, by simp at hfuel; omega⟩
    rw [List.length_cons] at hfuel
    cases xs with
    | nil =>
      have hend : heap.next a = none := isList_nil.mp hxs
      rw [whileLoop_stop (by simp [lastMore, hend])]
      rfl
    | cons b xs =>
      have hb : heap.next a = some b := (isList_cons.mp hxs).1
      rw [whileLoop_turn (by simp [lastMore, hb]) (heap.getNext_some a), ih hxs (by simp) (by omega)]
      simp

theorem walkPair_joint (hp : Path heap.next p as r) (hq : Path heap.next q bs r) (hlen : as.length = bs.length)
    (hne : ∀ a ∈ as, a ∉ bs) (hfuel : as.length < fuel) : walkPair fuel heap p q = .ok r := by
  unfold walkPair
  induction as generalizing p q bs fuel with
  | nil =>
    obtain rfl := List.length_eq_zero_iff.mp hlen.symm
    obtain rfl := path_nil.mp hp
    obtain rfl := path_nil.mp hq
    obtain ⟨n, rfl⟩ : ∃ n, fuel = n + 1 := ⟨fuel - 1, by omega⟩
    cases q with
    | none => rw [loop_stop (c := pairMore) rfl]; rfl
    | some a => rw [loop_ret (c := pairMore) (r := some a) rfl (by simp [pairTurn])]; rfl
  | cons a as ih =>
    cases bs with
    | nil => simp at hlen
    | cons b bs =>
      obtain ⟨rfl, has⟩ := path_cons.mp hp
      obtain ⟨rfl, hbs⟩ := path_cons.mp hq
      obtain ⟨n, rfl⟩ : ∃ n, fuel = n + 1 := ⟨fuel - 1, by omega⟩
      simp only [List.length_cons] at hfuel hlen
      have hab : a ≠ b := fun he => hne a (by simp) (by simp [he])
      have hturn : pairTurn heap ⟨some a, some b⟩ = .ok (.next ⟨heap.next a, heap.next b⟩) := by
        simp [pairTurn, hab]
      rw [loop_next (c := pairMore) rfl hturn]
      exact ih has hbs (by omega) (fun c hc hc' => hne c (by simp [hc]) (by simp [hc'])) (by omega)

/-! ## The answers -/

theorem find?_joint (ha : ∀ a ∈ as, a ∉ ys) (hz : ∀ z ∈ zs, z ∈ ys) :
    (as ++ zs).find? (· ∈ ys) = zs.head? := by
  have hnone : as.find? (· ∈ ys) = none := List.find?_eq_none.mpr fun a h => by simpa using ha a h
  rw [List.find?_append, hnone, Option.none_or]
  cases zs with
  | nil => rfl
  | cons z zs => rw [List.find?_cons_of_pos (by simpa using hz z (by simp))]; rfl

theorem joint_null (hx : IsList heap.next node1 (as ++ zs)) (hy : IsList heap.next node2 (bs ++ zs))
    (hnull : node1 = none ∨ node2 = none) : zs = [] := by
  rcases hnull with rfl | rfl
  · exact (List.append_eq_nil_iff.mp (hx.unique (isList_nil.mpr rfl))).2
  · exact (List.append_eq_nil_iff.mp (hy.unique (isList_nil.mpr rfl))).2

/-- Two lists with the rest `zs` from their joint on. -/
theorem crossNode_joint (hx : IsList heap.next node1 (as ++ zs)) (hy : IsList heap.next node2 (bs ++ zs))
    (hab : ∀ a ∈ as, a ∉ bs) (hfuel : (as ++ zs).length + (bs ++ zs).length < fuel) :
    crossNode fuel heap node1 node2 = .ok zs.head? := by
  by_cases hnull : node1 = none ∨ node2 = none
  · simp [crossNode, hnull, joint_null hx hy hnull]
  obtain ⟨r, hr1, hz⟩ := isList_append.mp hx
  obtain ⟨r', hr2, hz'⟩ := isList_append.mp hy
  obtain rfl : r = r' := hz.head.trans hz'.head.symm
  rw [← hz.head]
  have hlen1 := listLength_list hx (show _ < fuel by omega)
  have hlen2 := listLength_list hy (show _ < fuel by omega)
  simp only [List.length_append] at hlen1 hlen2 hfuel
  simp only [crossNode, hnull, if_false, hlen1, hlen2, ok_bind]
  by_cases hlt : as.length < bs.length
  · -- the second list is the longer one: its first nodes are passed
    rw [← List.take_append_drop (bs.length - as.length) bs] at hr2
    obtain ⟨q, hskip, hrest⟩ := path_append.mp hr2
    have hgt : ((bs.length + zs.length : Nat) : Int) > (as.length + zs.length : Nat) := by omega
    rw [if_pos hgt, if_pos hgt, skipNodes_path hskip (by simp; omega) (by simp; omega)]
    refine walkPair_joint hr1 hrest (by simp; omega) (fun a ha hd => ?_) (by omega)
    exact hab a ha (List.mem_of_mem_drop hd)
  · rw [← List.take_append_drop (as.length - bs.length) as] at hr1
    obtain ⟨q, hskip, hrest⟩ := path_append.mp hr1
    have hle : ¬ ((bs.length + zs.length : Nat) : Int) > (as.length + zs.length : Nat) := by omega
    rw [if_neg hle, if_neg hle, skipNodes_path hskip (by simp; omega) (by simp; omega)]
    refine walkPair_joint hrest hr2 (by simp; omega) (fun a ha => ?_) (by simp; omega)
    exact hab a (List.mem_of_mem_drop ha)

theorem nodeCross_joint (hx : IsList heap.next node1 (as ++ zs)) (hy : IsList heap.next node2 (bs ++ zs))
    (hab : ∀ a ∈ as, a ∉ bs) (hfuel : (as ++ zs).length + (bs ++ zs).length < fuel) :
    nodeCross fuel heap node1 node2 = .ok zs.head?.isSome := by
  by_cases hnull : node1 = none ∨ node2 = none
  · simp [nodeCross, hnull, joint_null hx hy hnull]
  have hne1 : as ++ zs ≠ [] := fun he => hnull (.inl (isList_nil.mp (he ▸ hx)))
  have hne2 : bs ++ zs ≠ [] := fun he => hnull (.inr (isList_nil.mp (he ▸ hy)))
  have hlast1 : lastNode fuel heap node1 = .ok (as ++ zs).getLast? := lastNode_list hx hne1 (by omega)
  have hlast2 : lastNode fuel heap node2 = .ok (bs ++ zs).getLast? := lastNode_list hy hne2 (by omega)
  simp only [nodeCross, hnull, if_false, hlast1, hlast2, ok_bind, pure_ok]
  cases zs with
  | nil =>
    -- apart: the last node of the first list is not on the second
    simp only [List.append_nil] at hne1 hne2 ⊢
    have hne : as.getLast hne1 ≠ bs.getLast hne2 := fun he =>
      hab _ (List.getLast_mem hne1) (he ▸ List.getLast_mem hne2)
    simp [List.getLast?_eq_some_getLast hne1, List.getLast?_eq_some_getLast hne2, hne]
  | cons z zs => simp [List.getLast?_append, List.getLast?_cons]

/-- **`crossNode` finds the first shared node, and `nodeCross` says whether
there is one.** On any two lists that end, `crossNode` returns the first
node of the first list that is on the second, which is also the first node
of the second that is on the first, and `NULL` when there is none. -/
theorem crossNode_first_shared (hx : IsList heap.next node1 xs) (hy : IsList heap.next node2 ys) :
    ∃ node, Returns (fun fuel => crossNode fuel heap node1 node2) (· = node) ∧
      Returns (fun fuel => nodeCross fuel heap node1 node2) (· = node.isSome) ∧
      node = xs.find? (· ∈ ys) ∧ node = ys.find? (· ∈ xs) := by
  obtain ⟨as, bs, zs, rfl, rfl, ha, hb⟩ := IsList.joint hx hy
  have hab : ∀ a ∈ as, a ∉ bs := fun a hmem hmem' => ha a hmem (List.mem_append_left zs hmem')
  refine ⟨zs.head?, ⟨_, fun fuel hfuel => ⟨_, crossNode_joint hx hy hab hfuel, rfl⟩⟩,
    ⟨_, fun fuel hfuel => ⟨_, nodeCross_joint hx hy hab hfuel, rfl⟩⟩, ?_, ?_⟩
  · exact (find?_joint ha fun z hz => List.mem_append_right bs hz).symm
  · exact (find?_joint hb fun z hz => List.mem_append_right as hz).symm

/-- The lists of `_test_twoListHasCross`: the second joins the first at its second node. -/
def crossSample : Heap := .ofList [(1, some 1), (2, some 2), (3, none), (3, some 4), (5, some 5), (7, some 1)]

theorem crossNode_sample : ∃ node,
    Returns (fun fuel => crossNode fuel crossSample (some 0) (some 3)) (· = node) ∧
    Returns (fun fuel => nodeCross fuel crossSample (some 0) (some 3)) (· = node.isSome) ∧
    node = [0, 1, 2].find? (· ∈ [3, 4, 5, 1, 2]) ∧ node = [3, 4, 5, 1, 2].find? (· ∈ [0, 1, 2]) :=
  crossNode_first_shared (by decide) (by decide)

end LearningDemo.LinkList
