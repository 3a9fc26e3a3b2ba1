/-
When `construct` rebuilds a tree from its traversals.

A call finds the root and hands the left call exactly the traversals of the
left subtree. The right call gets arrays of which only the first cells were
written, with the last label of either traversal, since the loop never moves
its index `j`. So it is given the traversals of a right subtree of at most
one node, and another root for any larger one, whatever the arrays held
before (`core_rebuilds_iff`).
-/
import LearningDemo.StringArray
import Mathlib.Data.List.Nodup
import Mathlib.Data.List.Perm.Basic

namespace LearningDemo.StringArray

open Imperative

namespace BinaryNode

/-- The labels, every root before its subtrees. -/
def preorder : BinaryNode → List Int
  | .null => []
  | .node root leftNode rightNode => root :: (preorder leftNode ++ preorder rightNode)

/-- The labels, every root between its subtrees. -/
def inorder : BinaryNode → List Int
  | .null => []
  | .node root leftNode rightNode => inorder leftNode ++ root :: inorder rightNode

/-- The number of nodes. -/
def size : BinaryNode → Nat
  | .null => 0
  | .node _ leftNode rightNode => size leftNode + 1 + size rightNode

@[simp] theorem length_preorder (t : BinaryNode) : t.preorder.length = t.size := by
  induction t with
  | null => rfl
  | node x l r ihl ihr => simp only [preorder, List.length_cons, List.length_append, ihl, ihr, size]; omega

@[simp] theorem length_inorder (t : BinaryNode) : t.inorder.length = t.size := by
  induction t with
  | null => rfl
  | node x l r ihl ihr => simp only [inorder, List.length_cons, List.length_append, ihl, ihr, size]; omega

theorem preorder_perm (t : BinaryNode) : t.preorder.Perm t.inorder := by
  induction t with
  | null => exact List.Perm.refl _
  | node x l r ihl ihr => exact ((ihl.append ihr).cons x).trans List.perm_middle.symm

end BinaryNode

variable {x : Int} {ps qs ms ns pz mz as bs pre mid : List Int} {l r t : BinaryNode}

/-! ## The loops of one call -/

theorem load_first (x : Int) (xs : List Int) : load (x :: xs) 0 = .ok x := by simp [load]

theorem find_loop {length : Int} (hpre : pre = x :: pz) (hmid : mid = as ++ ms ++ x :: mz) (hx : x ∉ ms)
    (hlen : (as.length + ms.length : Nat) < length) {n : Nat} (hn : ms.length < n) (root : Int) :
    loop (findMore length) (findTurn pre mid) n ⟨as.length, root⟩ =
      .ok (.left ⟨(as ++ ms).length, (as ++ ms).length⟩) := by
  have hroot : load pre 0 = .ok x := hpre ▸ load_first x pz
  induction ms generalizing as n with
  | nil =>
    obtain ⟨n, rfl⟩ : ∃ m, n = m + 1 := ⟨n - 1, by omega⟩
    rw [List.append_nil] at hmid ⊢
    have hload : load mid as.length = .ok x := by rw [hmid]; exact load_at rfl
    rw [loop_brk (by simp [findMore]; simpa using hlen) (by simp [findTurn, hload, hroot]; rfl)]
  | cons m ms ih =>
    obtain ⟨n, rfl⟩ : ∃ k, n = k + 1 := ⟨n - 1, by omega⟩
    rw [List.length_cons] at hlen hn
    have hload : load mid as.length = .ok m := by
      rw [hmid, List.append_assoc]; exact load_at rfl
    have hne : m ≠ x := fun he => hx (by simp [he])
    have hturn : findTurn pre mid ⟨as.length, root⟩ = .ok (.next ⟨(as ++ [m]).length, root⟩) := by
      simp [findTurn, hload, hroot, hne]
    rw [loop_next (by simp [findMore]; omega) hturn]
    have hmid' : mid = (as ++ [m]) ++ ms ++ x :: mz := by simpa using hmid
    have hrest := ih hmid' (fun hm => hx (by simp [hm])) (by simp; omega) (show ms.length < n by omega)
    simpa using hrest

theorem findRoot_at {length : Int} (hpre : pre = x :: pz) (hmid : mid = ms ++ x :: mz) (hx : x ∉ ms)
    (hlen : ms.length < length) : findRoot pre mid length = .ok ms.length := by
  have hmid' : mid = [] ++ ms ++ x :: mz := hmid
  have hloop : loop (findMore length) (findTurn pre mid) (length.toNat + 1) ⟨0, 0⟩ =
      .ok (.left ⟨ms.length, ms.length⟩) := find_loop hpre hmid' hx (by simpa using hlen) (by omega) 0
  unfold findRoot
  rw [hloop]
  rfl

/-- The left arrays are copied: the cells after the root, and the cells before it. -/
theorem left_loop {c1 c2 : List Int} (hpre : pre = x :: (ps ++ qs ++ pz)) (hmid : mid = ms ++ ns ++ mz)
    (hp : ps.length = ms.length) (hq : qs.length = ns.length) (h1 : qs.length ≤ c1.length)
    (h2 : qs.length ≤ c2.length) :
    forTurns (leftTurn pre mid) qs.length ps.length (ps ++ c1, ms ++ c2) =
      .ok (ps ++ qs ++ c1.drop qs.length, ms ++ ns ++ c2.drop qs.length) := by
  induction qs generalizing ps ms ns c1 c2 with
  | nil => simp [forTurns, List.length_eq_zero_iff.mp hq.symm]
  | cons q qs ih =>
    obtain ⟨n, ns, rfl⟩ := List.exists_cons_of_length_eq_add_one hq.symm
    obtain ⟨d1, c1, rfl⟩ := List.exists_cons_of_length_pos (show 0 < c1.length by simp at h1; omega)
    obtain ⟨d2, c2, rfl⟩ := List.exists_cons_of_length_pos (show 0 < c2.length by simp at h2; omega)
    have hload1 : load pre (ps.length + 1) = .ok q := by
      rw [hpre, List.append_assoc, ← List.cons_append]
      exact load_at (by simp)
    have hload2 : load mid ps.length = .ok n := by
      rw [hmid, List.append_assoc]
      exact load_at (by omega)
    have hturn : leftTurn pre mid ps.length (ps ++ d1 :: c1, ms ++ d2 :: c2) =
        .ok (ps ++ q :: c1, ms ++ n :: c2) := by
      have hstore : store (ms ++ d2 :: c2) ps.length n = .ok (ms ++ n :: c2) := store_at (by omega)
      simp [leftTurn, hload1, hload2, store_at, hstore]
    have hpre' : pre = x :: ((ps ++ [q]) ++ qs ++ pz) := by simpa using hpre
    have hmid' : mid = (ms ++ [n]) ++ ns ++ mz := by simpa using hmid
    have hrest := ih hpre' hmid' (by simp [hp]) (by simpa using hq) (show qs.length ≤ c1.length by simpa using h1)
      (show qs.length ≤ c2.length by simpa using h2)
    simp only [List.length_cons, forTurns, hturn, ok_bind]
    simpa using hrest

/-- Of the right arrays only the first cells are written, with what is read last. -/
theorem right_loop (c d : Int) (c1 c2 : List Int) (hpre : pre = as ++ ps ++ pz) (hmid : mid = bs ++ ms ++ mz)
    (ha : as.length = bs.length) (hp : ps.length = ms.length) :
    forTurns (rightTurn pre mid) ps.length as.length (c :: c1, d :: c2) =
      .ok (ps.getLastD c :: c1, ms.getLastD d :: c2) := by
  induction ps generalizing as bs ms c d with
  | nil => simp [forTurns, List.length_eq_zero_iff.mp hp.symm]
  | cons p ps ih =>
    obtain ⟨m, ms, rfl⟩ := List.exists_cons_of_length_eq_add_one hp.symm
    have hload1 : load pre as.length = .ok p := by
      rw [hpre, List.append_assoc]
      exact load_at rfl
    have hload2 : load mid as.length = .ok m := by
      rw [hmid, List.append_assoc]
      exact load_at (by omega)
    have hturn : rightTurn pre mid as.length (c :: c1, d :: c2) = .ok (p :: c1, m :: c2) := by
      simp [rightTurn, hload1, hload2, store]
    have hpre' : pre = (as ++ [p]) ++ ps ++ pz := by simpa using hpre
    have hmid' : mid = (bs ++ [m]) ++ ms ++ mz := by simpa using hmid
    have hrest := ih p m hpre' hmid' (by simp [ha]) (by simpa using hp)
    simp only [List.length_cons, forTurns, hturn, ok_bind, List.getLastD_cons]
    simpa using hrest

/-! ## One call -/

theorem length_buffer (length : Int) (f : Nat → Int) : (buffer length f).length = length.toNat := by
  simp [buffer]

/-- A call on traversals with the root `x`, whatever is in the arrays behind
them: the left call gets the traversals of the left side, the right call
arrays that begin with the last labels of those of the right side. -/
theorem core_call (depth : Nat) (fresh : List Side → Scratch) (hpre : pre = x :: (ps ++ qs ++ pz))
    (hmid : mid = ms ++ x :: (ns ++ mz)) (hx : x ∉ ms) (hp : ps.length = ms.length) (hq : qs.length = ns.length) :
    ∃ c d ly lz ry rz, ∀ result,
      construnctCore (depth + 1) fresh pre mid (ps.length + 1 + qs.length) = .ok result ↔
        ∃ leftNode rightNode,
          construnctCore depth (under fresh .left) (ps ++ ly) (ms ++ lz) ps.length = .ok leftNode ∧
          construnctCore depth (under fresh .right) (qs.getLastD c :: ry) (ns.getLastD d :: rz) qs.length =
            .ok rightNode ∧ result = .node x leftNode rightNode := by
  obtain ⟨length, hlength⟩ : ∃ length : Int, length = ps.length + 1 + qs.length := ⟨_, rfl⟩
  have hbuf : ∀ f, (buffer length f).length = ps.length + 1 + qs.length := fun f => by
    rw [length_buffer]; omega
  have hroom : ∀ f, ps.length ≤ (buffer length f).length := fun f => by rw [hbuf]; omega
  obtain ⟨c, cs, hc⟩ := List.exists_cons_of_length_pos (show 0 < (buffer length (fresh []).preRight).length by
    rw [hbuf]; omega)
  obtain ⟨d, ds, hd⟩ := List.exists_cons_of_length_pos (show 0 < (buffer length (fresh []).midRight).length by
    rw [hbuf]; omega)
  have hfind : findRoot pre mid length = .ok ms.length := findRoot_at hpre hmid hx (by omega)
  have hroot : load pre 0 = .ok x := hpre ▸ load_first x _
  have hleft : forRange 0 ms.length (leftTurn pre mid)
      (buffer length (fresh []).preLeft, buffer length (fresh []).midLeft) =
      .ok (ps ++ (buffer length (fresh []).preLeft).drop ps.length,
        ms ++ (buffer length (fresh []).midLeft).drop ps.length) := by
    have hpre' : pre = x :: ([] ++ ps ++ (qs ++ pz)) := by simpa using hpre
    have hmid' : mid = [] ++ ms ++ (x :: (ns ++ mz)) := hmid
    have hrun := left_loop hpre' hmid' rfl hp (hroom (fresh []).preLeft) (hroom (fresh []).midLeft)
    have hcount : ((ms.length : Int) - 0).toNat = ps.length := by omega
    rw [forRange, hcount]
    exact hrun
  have hright : forRange (ms.length + 1) length (rightTurn pre mid)
      (buffer length (fresh []).preRight, buffer length (fresh []).midRight) =
      .ok (qs.getLastD c :: cs, ns.getLastD d :: ds) := by
    have hpre' : pre = (x :: ps) ++ qs ++ pz := by simpa using hpre
    have hmid' : mid = (ms ++ [x]) ++ ns ++ mz := by simpa using hmid
    have hrun := right_loop c d cs ds hpre' hmid' (by simp [hp]) hq
    have hcount : (length - (ms.length + 1)).toNat = qs.length := by omega
    rw [forRange, hcount, hc, hd, ← hp]
    exact hrun
  refine ⟨c, d, (buffer length (fresh []).preLeft).drop ps.length,
    (buffer length (fresh []).midLeft).drop ps.length, cs, ds, fun result => ?_⟩
  have hpos : ¬ length = 0 := by omega
  have hrest : length - ms.length - 1 = qs.length := by omega
  rw [← hlength]
  simp only [construnctCore, hpos, if_false, hfind, hroot, hleft, hright, ok_bind, hrest]
  rw [← hp]
  simp only [bind_ok, pure_ok, Except.ok.injEq, eq_comm (a := result)]
  refine ⟨fun h => ?_, fun h => ?_⟩
  · obtain ⟨l, hl, r, hr, he⟩ := h
    exact ⟨l, r, hl, hr, he⟩
  · obtain ⟨l, r, hl, hr, he⟩ := h
    exact ⟨l, hl, r, hr, he⟩

theorem core_root {depth : Nat} {fresh : List Side → Scratch} {length : Int} {result : BinaryNode}
    (h : construnctCore depth fresh (x :: pz) mid length = .ok result) (hlen : length ≠ 0) :
    ∃ l r, result = .node x l r := by
  cases depth with
  | zero => simp [construnctCore] at h
  | succ depth =>
    simp only [construnctCore, hlen, if_false, bind_ok, load_first, pure_ok, Except.ok.injEq] at h
    obtain ⟨-, -, -, rfl, -, -, -, -, l, -, r, -, rfl⟩ := h
    exact ⟨l, r, rfl⟩

/-! ## The whole tree -/

/-- Every right subtree has at most one node. -/
def RightSmall : BinaryNode → Prop
  | .null => True
  | .node _ leftNode rightNode => RightSmall leftNode ∧ rightNode.size ≤ 1

instance RightSmall.decidable : ∀ t, Decidable (RightSmall t)
  | .null => inferInstanceAs (Decidable True)
  | .node _ leftNode rightNode =>
    have := RightSmall.decidable leftNode
    inferInstanceAs (Decidable (RightSmall leftNode ∧ rightNode.size ≤ 1))

theorem rightSmall_of_size (h : t.size ≤ 1) : RightSmall t := by
  cases t with
  | null => trivial
  | node x l r =>
    simp only [BinaryNode.size] at h
    have hl : l = .null := by
      cases l with
      | null => rfl
      | node => simp only [BinaryNode.size] at h; omega
    exact ⟨by rw [hl]; trivial, by omega⟩

theorem getLastD_single {xs : List Int} (c : Int) (ys : List Int) (h : xs.length ≤ 1) :
    ∃ zs, xs.getLastD c :: ys = xs ++ zs := by
  rcases xs with _ | ⟨a, _ | ⟨b, xs⟩⟩
  · exact ⟨c :: ys, rfl⟩
  · exact ⟨ys, rfl⟩
  · simp at h

theorem getLastD_ne_root {y c : Int} (hnd : (BinaryNode.node y l r).inorder.Nodup)
    (h : 1 < (BinaryNode.node y l r).size) : (BinaryNode.node y l r).preorder.getLastD c ≠ y := by
  have hpre : (BinaryNode.node y l r).preorder.Nodup := (BinaryNode.preorder_perm _).nodup_iff.mpr hnd
  simp only [BinaryNode.preorder, List.nodup_cons] at hpre
  have hne : l.preorder ++ r.preorder ≠ [] := fun he => by
    have := congrArg List.length he
    simp only [BinaryNode.size] at h
    simp at this
    omega
  intro he
  rw [BinaryNode.preorder, List.getLastD_cons, List.getLastD_eq_getLast?, List.getLast?_eq_some_getLast hne] at he
  exact hpre.1 (he ▸ List.getLast_mem hne)

/-- **When a call rebuilds a tree from its traversals**, whatever stands
behind them and in the fresh arrays: when every right subtree has at most
one node. -/
theorem core_rebuilds_iff (t : BinaryNode) (hnd : t.inorder.Nodup) {depth : Nat} (hdepth : t.size < depth)
    (fresh : List Side → Scratch) (y z : List Int) :
    construnctCore depth fresh (t.preorder ++ y) (t.inorder ++ z) t.size = .ok t ↔ RightSmall t := by
  induction t generalizing depth fresh y z with
  | null =>
    obtain ⟨depth, rfl⟩ : ∃ n, depth = n + 1 := ⟨depth - 1, by omega⟩
    exact iff_of_true (by simp [construnctCore, BinaryNode.size]) trivial
  | node x l r ihl ihr =>
    obtain ⟨depth, rfl⟩ : ∃ n, depth = n + 1 := ⟨depth - 1, by omega⟩
    simp only [BinaryNode.size] at hdepth
    obtain ⟨hndl, hndr, hdisj⟩ := List.nodup_append'.mp hnd
    have hx : x ∉ l.inorder := fun hmem => hdisj hmem (by simp)
    have hndr' : r.inorder.Nodup := (List.nodup_cons.mp hndr).2
    have hpre : (BinaryNode.node x l r).preorder ++ y = x :: (l.preorder ++ r.preorder ++ y) := rfl
    have hmid : (BinaryNode.node x l r).inorder ++ z = l.inorder ++ x :: (r.inorder ++ z) := by
      simp [BinaryNode.inorder]
    obtain ⟨c, d, ly, lz, ry, rz, hcall⟩ := core_call depth fresh hpre hmid hx (by simp) (by simp)
    simp only [BinaryNode.length_preorder] at hcall
    have hsize : ((BinaryNode.node x l r).size : Int) = l.size + 1 + r.size := by simp [BinaryNode.size]
    rw [hsize, hcall]
    constructor
    · intro ⟨l', r', hl, hr, he⟩
      obtain ⟨-, rfl, rfl⟩ := BinaryNode.node.inj he
      refine ⟨(ihl hndl (by omega) _ ly lz).mp hl, ?_⟩
      by_contra hbig
      cases r with
      | null => simp [BinaryNode.size] at hbig
      | node root _ _ =>
        obtain ⟨_, _, hroot⟩ := core_root hr (by omega)
        exact getLastD_ne_root hndr' (by omega) (BinaryNode.node.inj hroot).1.symm
    · intro ⟨hl, hr⟩
      obtain ⟨py, hpy⟩ := getLastD_single c ry (show r.preorder.length ≤ 1 by simpa using hr)
      obtain ⟨iz, hiz⟩ := getLastD_single d rz (show r.inorder.length ≤ 1 by simpa using hr)
      rw [hpy, hiz]
      exact ⟨l, r, (ihl hndl (by omega) _ ly lz).mpr hl,
        (ihr hndr' (by omega) _ py iz).mpr (rightSmall_of_size hr), rfl⟩

/-- `construct` gives back the tree whose traversals it is called with. -/
def Rebuilds (fresh : List Side → Scratch) (t : BinaryNode) : Prop :=
  Returns (fun depth => construct depth fresh (some t.preorder) (some t.inorder) t.size) (· = t)

theorem construct_eq_core (depth : Nat) (fresh : List Side → Scratch) (ht : t ≠ .null) :
    construct depth fresh (some t.preorder) (some t.inorder) t.size =
      construnctCore depth fresh (t.preorder ++ []) (t.inorder ++ []) t.size := by
  cases t with
  | null => exact absurd rfl ht
  | node x l r =>
    have hpos : ((BinaryNode.node x l r).size : Int) ≠ 0 := by simp only [BinaryNode.size]; omega
    simp only [construct, hpos, if_false, List.append_nil]

theorem Rebuilds.rightSmall {fresh : List Side → Scratch} (h : Rebuilds fresh t) (ht : t ≠ .null)
    (hnd : t.inorder.Nodup) : RightSmall t := by
  obtain ⟨n, hn⟩ := h
  obtain ⟨result, hcall, he⟩ := hn (n + t.size + 1) (by omega)
  replace hcall : construct (n + t.size + 1) fresh (some t.preorder) (some t.inorder) t.size = .ok t := he ▸ hcall
  rw [construct_eq_core _ fresh ht] at hcall
  exact (core_rebuilds_iff _ hnd (by omega) fresh [] []).mp hcall

/-- **When `construct` rebuilds the tree.** Whatever the uninitialised arrays
hold, a tree with different labels is rebuilt from its traversals exactly
when every right subtree has at most one node. -/
theorem construct_rebuilds_iff (fresh : List Side → Scratch) (ht : t ≠ .null) (hnd : t.inorder.Nodup) :
    Rebuilds fresh t ↔ RightSmall t := by
  refine ⟨fun h => h.rightSmall ht hnd, fun h => ⟨t.size + 1, fun depth hdepth => ⟨t, ?_, rfl⟩⟩⟩
  show construct depth fresh (some t.preorder) (some t.inorder) t.size = .ok t
  rw [construct_eq_core depth fresh ht]
  exact (core_rebuilds_iff t hnd hdepth fresh [] []).mpr h

/-- Arrays that hold zeros. -/
def zeros : List Side → Scratch := fun _ => ⟨fun _ => 0, fun _ => 0, fun _ => 0, fun _ => 0⟩

/-- A tree with one node to the right of a root and one below it to the left. -/
def leftTree : BinaryNode := .node 1 (.node 2 (.node 4 .null .null) .null) (.node 3 .null .null)

theorem construct_rebuilds_leftTree : Rebuilds zeros leftTree ↔ RightSmall leftTree :=
  construct_rebuilds_iff zeros (by decide) (by decide)

/-- The tree of `_test_constuctBinaryNode`. -/
def sampleTree : BinaryNode :=
  .node 1 (.node 2 (.node 4 .null (.node 7 .null .null)) .null)
    (.node 3 (.node 5 .null .null) (.node 6 (.node 8 .null .null) .null))

theorem construct_sampleTree_not_rebuilt :
    sampleTree.preorder = [1, 2, 4, 7, 3, 5, 6, 8] ∧ sampleTree.inorder = [4, 7, 2, 1, 5, 3, 8, 6] ∧
    sampleTree ≠ .null ∧ sampleTree.inorder.Nodup ∧ ¬ Rebuilds zeros sampleTree :=
  ⟨rfl, rfl, by decide, by decide, fun h => absurd (h.rightSmall (by decide) (by decide)) (by decide)⟩

end LearningDemo.StringArray
