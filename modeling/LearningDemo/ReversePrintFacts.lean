/-
The two reverse printers on every list that ends.

The recursive one prints the values last to first (`recursivlyprint_returns`).
The one with the stack pushes the nodes it walks, and `push` turns the field
it walks by: from the second node on it goes back and forth between two nodes
(`print_never`), and a single node is `top` and `bottom` at once, which is
what `empty` asks (`print_single`).
-/
import LearningDemo.LinkList

namespace LearningDemo.LinkList

open Imperative Linked

/-- The recursive printer, with a turn of depth for each node and one more. -/
theorem recursivlyprint_ok {heap : Heap} : ∀ {xs : List Addr} {header : Ptr} {depth : Nat},
    IsList heap.next header xs → xs.length < depth →
    recursivlyprintLinkListWithOppositeSort depth heap header = .ok (xs.map heap.value).reverse := by
  intro xs
  induction xs with
  | nil =>
    intro header depth hl hd
    obtain ⟨d, rfl⟩ : ∃ d, depth = d + 1 := ⟨depth - 1, by omega⟩
    simp [recursivlyprintLinkListWithOppositeSort, isList_nil.mp hl]
  | cons x xs ih =>
    intro header depth hl hd
    rw [List.length_cons] at hd
    obtain ⟨d, rfl⟩ : ∃ d, depth = d + 1 := ⟨depth - 1, by omega⟩
    obtain ⟨rfl, hxs⟩ := isList_cons.mp hl
    have hrest := ih (show IsList heap.next (heap.next x) xs from hxs) (show xs.length < d by omega)
    by_cases hn : heap.next x = none
    · -- the source does not call itself on `NULL`
      obtain rfl : xs = [] := IsList.unique hxs (isList_nil.mpr hn)
      simp [recursivlyprintLinkListWithOppositeSort, hn]
    · simp [recursivlyprintLinkListWithOppositeSort, hn, hrest]

theorem recursivlyprint_returns {heap : Heap} {header : Ptr} {xs : List Addr}
    (hl : IsList heap.next header xs) :
    Returns (fun depth => recursivlyprintLinkListWithOppositeSort depth heap header)
      (· = (xs.map heap.value).reverse) :=
  ⟨xs.length + 1, fun _ hd => ⟨_, recursivlyprint_ok hl (by omega), rfl⟩⟩

/-! ## The printer with the stack -/

/-- The walk stands at a node and the stack has one: so it will after any turn. -/
def Pacing (s : Pushing) : Prop := ∃ heap top bottom node, s = ⟨heap, some ⟨some top, bottom⟩, some node⟩

/-- A turn hangs the node above the last one, and goes back to the last one. -/
theorem pushTurn_pacing {s s' : Pushing} (hs : Pacing s) (h : pushTurn s = .ok s') : Pacing s' := by
  obtain ⟨heap, top, bottom, node, rfl⟩ := hs
  have hturn : pushTurn ⟨heap, some ⟨some top, bottom⟩, some node⟩ =
      .ok ⟨heap.link node (some top), some ⟨some node, bottom⟩, some top⟩ := by
    simp [pushTurn, DataStructure.push]
  obtain rfl := Except.ok.inj (hturn.symm.trans h)
  exact ⟨_, _, _, _, rfl⟩

theorem pushTurn_first {heap : Heap} {a : Addr} :
    pushTurn ⟨heap, DataStructure.initStack, some a⟩ = .ok ⟨heap, some ⟨some a, some a⟩, heap.next a⟩ := by
  simp [pushTurn, DataStructure.push, DataStructure.initStack]

theorem print_never {heap : Heap} {a b : Addr} {fuel : Nat} {r : Heap × List Int} (hb : heap.next a = some b) :
    printLinkListWithOppositeSort fuel heap (some a) ≠ .ok r := by
  intro h
  unfold printLinkListWithOppositeSort at h
  rw [if_neg (by simp)] at h
  obtain ⟨s, hs, -⟩ := bind_ok.mp h
  obtain ⟨m, hm⟩ := whileLoop_rest (by simp) pushTurn_first hs
  have hpacing : Pacing ⟨heap, some ⟨some a, some a⟩, heap.next a⟩ := ⟨heap, a, some a, b, by rw [hb]⟩
  refine whileLoop_forever (I := Pacing) ?_ (fun _ _ => pushTurn_pacing) hpacing hm
  intro s ⟨_, _, _, node, hs⟩
  simp [hs]

theorem print_single {heap : Heap} {a : Addr} {fuel : Nat} (ha : heap.next a = none) (hf : 2 ≤ fuel) :
    printLinkListWithOppositeSort fuel heap (some a) = .ok (heap, []) := by
  obtain ⟨n, rfl⟩ : ∃ n, fuel = n + 2 := ⟨fuel - 2, by omega⟩
  unfold printLinkListWithOppositeSort
  rw [if_neg (by simp), whileLoop_turn (by simp) pushTurn_first, whileLoop_stop (by simp [ha])]
  rw [ok_bind, whileLoop_stop (by simp [DataStructure.empty])]
  rfl

/-! ## The two together -/

/-- The printer with the stack prints the values of `xs` last to first, as the
recursive one does, and leaves every `next` as it was. -/
def Agrees (heap : Heap) (header : Ptr) (xs : List Addr) : Prop :=
  Returns (fun fuel => printLinkListWithOppositeSort fuel heap header)
    (fun r => r.2 = (xs.map heap.value).reverse ∧ r.1.next = heap.next) ∧
  Returns (fun depth => recursivlyprintLinkListWithOppositeSort depth heap header)
    (· = (xs.map heap.value).reverse)

theorem not_agrees_some {heap : Heap} {a : Addr} {xs : List Addr} (hl : IsList heap.next (some a) xs) :
    ¬ Agrees heap (some a) xs := by
  intro hagrees
  obtain ⟨n, h⟩ := hagrees.1
  obtain ⟨r, hr, hout, -⟩ := h (max n 2) (by omega)
  cases hn : heap.next a with
  | some b => exact print_never hn hr
  | none =>
    obtain rfl := Except.ok.inj ((print_single hn (show 2 ≤ max n 2 by omega)).symm.trans hr)
    cases xs with
    | nil => simp at hl
    | cons x xs => simp at hout

/-- **The reverse printers agree** on the empty list, and on no other. -/
theorem reverse_printers_agree_iff (heap : Heap) (header : Ptr) (xs : List Addr)
    (hl : IsList heap.next header xs) : Agrees heap header xs ↔ header = none := by
  constructor
  · intro h
    cases header with
    | none => rfl
    | some a => exact absurd h (not_agrees_some hl)
  · intro hn
    subst hn
    obtain rfl : xs = [] := IsList.unique hl (isList_nil.mpr rfl)
    refine ⟨Returns.of_ok (r := (heap, [])) (fun _ => ?_) ⟨rfl, rfl⟩, recursivlyprint_returns hl⟩
    simp [printLinkListWithOppositeSort]

theorem reverse_printers_agree_two :
    Agrees (Heap.ofList [(1, some 1), (2, none)]) (some 0) [0, 1] ↔ (some 0 : Ptr) = none :=
  reverse_printers_agree_iff _ _ _ (by decide)

/-- Two nodes are enough for the printers to part. -/
theorem reverse_printers_differ :
    ¬ ∀ (heap : Heap) (header : Ptr) (xs : List Addr), IsList heap.next header xs → Agrees heap header xs := by
  intro h
  have hl : IsList (Heap.ofList [(1, some 1), (2, none)]).next (some 0) [0, 1] := by decide
  exact not_agrees_some hl (h _ _ _ hl)

end LearningDemo.LinkList
