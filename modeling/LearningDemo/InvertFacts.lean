/-
`invertListNode` on every list that ends.

The third assignment of its loop goes on by the field the second one has
just written: after the first turn `currentHeadNode` is `NULL`, the first
node is alone in the new list and the others are lost (`invertListNode_cuts`).
Lists of fewer than two nodes never reach the loop.
-/
import LearningDemo.LinkList

namespace LearningDemo.LinkList

open Imperative Linked

variable {heap : Heap} {header : Ptr} {xs : List Addr} {a b : Addr} {fuel : Nat}

/-- The list of the cells `xs` was turned round: it is walked from its last
cell, back to the first, which ends it, and no value was written. -/
def Inverted (heap : Heap) (xs : List Addr) (r : Heap × List Int) : Prop :=
  IsList r.1.next xs.getLast? xs.reverse ∧ r.1.value = heap.value

theorem listing_single (ha : heap.next a = none) (printed : List Int) :
    whileLoop listingMore (listingTurn heap) (fuel + 2) ⟨some a, printed⟩ =
      .ok ⟨none, printed ++ [heap.value a]⟩ := by
  have hturn : listingTurn heap ⟨some a, printed⟩ = .ok ⟨none, printed ++ [heap.value a]⟩ := by
    simp [listingTurn, ha]
  rw [whileLoop_turn (c := listingMore) rfl hturn]
  exact whileLoop_stop (c := listingMore) rfl

theorem invertTurn_first : invertTurn (fuel + 2) ⟨heap, none, some a, []⟩ =
    .ok ⟨heap.link a none, some a, none, [heap.value a]⟩ := by
  have hcut : (heap.link a none).next a = none := Function.update_self _ _ _
  simp [invertTurn, hcut, listing_single hcut]

/-- From the second node on the list is cut off. -/
theorem invertListNode_cuts (hb : heap.next a = some b) (hfuel : 2 ≤ fuel) :
    invertListNode fuel heap (some a) = .ok (heap.link a none, [heap.value a]) := by
  obtain ⟨n, rfl⟩ : ∃ n, fuel = n + 2 := ⟨fuel - 2, by omega⟩
  unfold invertListNode
  rw [if_neg (by simp), Heap.getNext_some, ok_bind, hb, if_neg (by simp),
    whileLoop_turn (c := invertMore) rfl invertTurn_first, whileLoop_stop (c := invertMore) rfl]
  rfl

theorem invertListNode_short (h : IsList heap.next header xs) (hlen : xs.length ≤ 1) :
    invertListNode fuel heap header = .ok (heap, []) := by
  match xs, h, hlen with
  | [], h, _ =>
    obtain rfl := isList_nil.mp h
    rfl
  | [a], h, _ =>
    obtain ⟨rfl, hend⟩ := isList_cons.mp h
    simp [invertListNode, isList_nil.mp hend]

theorem inverted_short (h : IsList heap.next header xs) (hlen : xs.length ≤ 1) :
    Inverted heap xs (heap, []) := by
  match xs, h, hlen with
  | [], _, _ => exact ⟨isList_nil.mpr rfl, rfl⟩
  | [a], h, _ => exact ⟨isList_cons.mpr ⟨rfl, (isList_cons.mp h).2⟩, rfl⟩

/-- The last of two nodes or more does not lead to the first one any more:
from it the walk goes on to where it went before. -/
theorem not_inverted_cut {ys : List Addr} (h : IsList heap.next (some a) (a :: b :: ys)) {printed : List Int} :
    ¬ Inverted heap (a :: b :: ys) (heap.link a none, printed) := by
  intro hinv
  have hrev := hinv.1
  obtain ⟨-, hb⟩ := isList_cons.mp h
  have ha : a ∉ b :: ys := (List.nodup_cons.mp h.nodup).1
  -- the last node's field is the `NULL` it was, and the reversed list has a second node
  obtain ⟨zs, z, hz⟩ : ∃ zs z, b :: ys = zs ++ [z] :=
    ⟨_, _, (List.dropLast_append_getLast (List.cons_ne_nil b ys)).symm⟩
  rw [hz] at hb ha hrev
  obtain ⟨q, -, hq⟩ := isList_append.mp hb
  have hend : heap.next z = none := isList_nil.mp (isList_cons.mp hq).2
  have hne : z ≠ a := fun he => ha (by simp [he])
  simp only [List.reverse_cons, List.reverse_append, List.reverse_nil, List.nil_append,
    List.cons_append, isList_cons, Heap.link_next, Function.update_of_ne hne, hend] at hrev
  have hrest := hrev.2.head
  simp at hrest

/-- **`invertListNode` turns round exactly the lists of at most one node.** -/
theorem invertListNode_inverts_iff (h : IsList heap.next header xs) :
    Returns (fun fuel => invertListNode fuel heap header) (Inverted heap xs) ↔ xs.length ≤ 1 := by
  match xs, h with
  | [], h =>
    exact ⟨fun _ => Nat.zero_le 1, fun hlen =>
      .of_ok (fun _ => invertListNode_short h hlen) (inverted_short h hlen)⟩
  | [a], h =>
    exact ⟨fun _ => Nat.le_refl 1, fun hlen =>
      .of_ok (fun _ => invertListNode_short h hlen) (inverted_short h hlen)⟩
  | a :: b :: ys, h =>
    obtain ⟨rfl, hb⟩ := isList_cons.mp h
    have hcut : Returns (fun fuel => invertListNode fuel heap (some a))
        (· = (heap.link a none, [heap.value a])) :=
      ⟨2, fun _ hfuel => ⟨_, invertListNode_cuts (isList_cons.mp hb).1 hfuel, rfl⟩⟩
    rw [Returns.iff_of_eq hcut]
    exact ⟨fun hinv => absurd hinv (not_inverted_cut h), fun hlen => by simp at hlen⟩

/-- The list of `initALinkList`, with `NULL` behind its last node. -/
def invertSample : Heap := .ofList [(1, some 1), (2, some 2), (3, some 3), (4, some 4), (5, none)]

theorem invertListNode_inverts_sample :
    Returns (fun fuel => invertListNode fuel invertSample (some 0)) (Inverted invertSample [0, 1, 2, 3, 4]) ↔
      [0, 1, 2, 3, 4].length ≤ 1 :=
  invertListNode_inverts_iff (by decide)

theorem invertListNode_loses : IsList invertSample.next (some 0) [0, 1, 2, 3, 4] ∧
    ¬ Returns (fun fuel => invertListNode fuel invertSample (some 0))
      (Inverted invertSample [0, 1, 2, 3, 4]) := by
  have hlist : IsList invertSample.next (some 0) [0, 1, 2, 3, 4] := by decide
  have hcut : Returns (fun fuel => invertListNode fuel invertSample (some 0))
      (· = (invertSample.link 0 none, [1])) :=
    ⟨2, fun _ hfuel => ⟨_, invertListNode_cuts rfl hfuel, rfl⟩⟩
  exact ⟨hlist, fun h => not_inverted_cut hlist ((Returns.iff_of_eq hcut).mp h)⟩

end LearningDemo.LinkList
