/-
What `clear` frees, and what it leaves behind.

It walks from `top` to `NULL`, past `bottom`: so it frees the nodes pushed
and whatever the first of them led to before (`clear_frees_iff`). Neither
`top` nor `bottom` is set to `NULL`, so both are left on freed nodes unless
there was nothing to free (`clear_clears_iff`).
-/
import LearningDemo.StackFacts

namespace LearningDemo.DataStructure

open Imperative Linked

variable {heap : Heap} {stack : Option Stack} {nodes freed : List Addr} {node : Ptr} {fuel : Nat}

/-- The nodes pushed one after another on the stack `initStack` makes. -/
def pushAll (heap : Heap) (nodes : List Addr) : C (Heap × Option Stack) :=
  nodes.foldlM (fun s node => push s.1 s.2 (some node)) (heap, initStack)

/-- All nodes pushed are freed, each once, and no others. -/
def FreesPushed (heap : Heap) (nodes : List Addr) : Prop :=
  ∃ heap' stack, pushAll heap nodes = .ok (heap', stack) ∧
    Returns (fun fuel => clear fuel heap' stack) fun r => r.2.Perm nodes

/-- A stack as `initStack` leaves it, that refers to none of the nodes freed. -/
structure Cleared (heap : Heap) (stack : Option Stack) (freed : List Addr) : Prop where
  empty : empty stack = true
  lenth : Returns (fun fuel => lenth fuel heap stack) (· = 0)
  top : ∀ s, stack = some s → ∀ a ∈ freed, s.top ≠ some a
  bottom : ∀ s, stack = some s → ∀ a ∈ freed, s.bottom ≠ some a

/-- The call ends, with the nodes pushed freed and the stack cleared. -/
def Clears (heap : Heap) (nodes : List Addr) : Prop :=
  ∃ heap' stack, pushAll heap nodes = .ok (heap', stack) ∧
    Returns (fun fuel => clear fuel heap' stack) fun r => r.2.Perm nodes ∧ Cleared heap' r.1 r.2

/-! ## The walk -/

theorem clearTurn_ok {s s' : Clearing} (h : clearTurn heap s = .ok s') :
    ∃ a, s.node = some a ∧ s'.node = heap.next a ∧ s'.freed = s.freed ++ [a] := by
  cases hs : s.node with
  | none => simp [clearTurn, hs] at h
  | some a =>
    simp only [clearTurn, hs, Heap.getNext_some, ok_bind, pure_ok, Except.ok.injEq] at h
    subst h
    exact ⟨a, rfl, rfl, rfl⟩

theorem clear_walk : ∀ {xs : List Addr} {node : Ptr} {freed : List Addr} {fuel : Nat},
    IsList heap.next node xs → xs.length < fuel →
    whileLoop clearMore (clearTurn heap) fuel ⟨node, freed⟩ = .ok ⟨none, freed ++ xs⟩
  | [], node, freed, fuel, h, hf => by
    obtain ⟨m, rfl⟩ : ∃ m, fuel = m + 1 := ⟨fuel - 1, by simp at hf; omega⟩
    obtain rfl := isList_nil.mp h
    rw [List.append_nil]
    exact whileLoop_stop rfl
  | x :: xs, node, freed, fuel, h, hf => by
    obtain ⟨m, rfl⟩ : ∃ m, fuel = m + 1 := ⟨fuel - 1, by simp at hf; omega⟩
    obtain ⟨rfl, hxs⟩ := isList_cons.mp h
    have hturn : clearTurn heap ⟨some x, freed⟩ = .ok ⟨heap.next x, freed ++ [x]⟩ := rfl
    rw [whileLoop_turn (c := clearMore) rfl hturn, clear_walk hxs (by simp at hf; omega), List.append_assoc,
      List.singleton_append]

theorem clear_walked {n : Nat} {s r : Clearing} (h : whileLoop clearMore (clearTurn heap) n s = .ok r) :
    ∃ xs, r.freed = s.freed ++ xs ∧ IsList heap.next s.node xs := by
  have hstart : ∃ xs, s.freed = s.freed ++ xs ∧ Path heap.next s.node xs s.node := ⟨[], by simp, rfl⟩
  have hinv := whileLoop_ok (I := fun t => ∃ xs, t.freed = s.freed ++ xs ∧ Path heap.next s.node xs t.node)
    (fun t t' ht _ hturn => ?_) hstart h
  · obtain ⟨⟨xs, hfreed, hpath⟩, hstop⟩ := hinv
    have hend : r.node = none := by simpa [clearMore] using hstop
    rw [hend] at hpath
    exact ⟨xs, hfreed, hpath⟩
  · obtain ⟨xs, hfreed, hpath⟩ := ht
    obtain ⟨a, ha, hnode, hfreed'⟩ := clearTurn_ok hturn
    rw [ha] at hpath
    exact ⟨xs ++ [a], by rw [hfreed', hfreed, List.append_assoc], path_snoc.mpr ⟨hpath, hnode.symm⟩⟩

/-- **What `clear` frees**: the list that starts at `top`; when there is
none it goes on for ever. -/
theorem clear_returns_iff {s : Stack} {P : Option Stack × List Addr → Prop} :
    Returns (fun fuel => clear fuel heap (some s)) P ↔
      ∃ xs, IsList heap.next s.top xs ∧ P (some s, xs) := by
  refine ⟨fun h => ?_, fun ⟨xs, hlist, hp⟩ => ?_⟩
  · obtain ⟨fuel, r, hr, hp⟩ := h.elim
    obtain ⟨t, ht, he⟩ := bind_ok.mp hr
    obtain ⟨xs, hfreed, hlist⟩ := clear_walked ht
    cases he
    rw [hfreed, List.nil_append] at hp
    exact ⟨xs, hlist, hp⟩
  · refine ⟨xs.length + 1, fun fuel hfuel => ⟨(some s, xs), ?_, hp⟩⟩
    exact bind_ok.mpr ⟨_, clear_walk hlist hfuel, rfl⟩

theorem clear_nodup {s : Stack} {r : Option Stack × List Addr} (h : clear fuel heap (some s) = .ok r) :
    r.2.Nodup := by
  obtain ⟨t, ht, he⟩ := bind_ok.mp h
  obtain ⟨xs, hfreed, hlist⟩ := clear_walked ht
  cases he
  rw [hfreed, List.nil_append]
  exact hlist.nodup

/-! ## After the pushes -/

theorem Rep.pushAll {next : Addr → Ptr} : ∀ {nodes : List Addr} {past : Past} {heap : Heap}
    {stack : Option Stack}, past.Valid → past.cleared = false → Rep next past heap stack →
    (past.pushed.reverse ++ nodes).Nodup → ∃ past' heap' stack',
      nodes.foldlM (fun s node => DataStructure.push s.1 s.2 (some node)) (heap, stack) = .ok (heap', stack') ∧
        Rep next past' heap' stack' ∧ past'.cleared = false ∧
        past'.pushed = nodes.reverse ++ past.pushed := by
  intro nodes
  induction nodes with
  | nil =>
    intro past heap stack _ hc hr _
    exact ⟨past, heap, stack, rfl, hr, hc, rfl⟩
  | cons node nodes ih =>
    intro past heap stack hv hc hr hnodup
    have hfresh : node ∉ past.pushed := fun hmem =>
      (List.nodup_append'.mp hnodup).2.2 (List.mem_reverse.mpr hmem) (by simp)
    have hlegal : past.legal (.push node) := fun hmem => hfresh (hv.sub.subset hmem)
    obtain ⟨heap', stack', hpush, hr'⟩ := hr.push hv hfresh
    have hv' : (past.after next (.push node)).Valid := hv.after next hlegal hfresh
    obtain ⟨past', heap'', stack'', hpushes, hr'', hc', hpushed⟩ :=
      ih hv' hc hr' (by simpa [Past.after] using hnodup)
    refine ⟨past', heap'', stack'', ?_, hr'', hc', by simpa [Past.after] using hpushed⟩
    rw [List.foldlM_cons, hpush]
    exact hpushes

/-- `top` is the last node pushed, `bottom` the first, and behind it comes
what its field held before. -/
theorem pushAll_ok (heap : Heap) (hn : nodes.Nodup) : ∃ heap' s,
    pushAll heap nodes = .ok (heap', some s) ∧ s.top = nodes.getLast? ∧ s.bottom = nodes.head? ∧
      Path heap'.next s.top nodes.reverse (nodes.head?.bind heap.next) := by
  obtain ⟨past, heap', stack, hpush, hr, hc, hpushed⟩ :=
    Rep.pushAll Past.start_valid rfl (Rep.init heap) (show (Past.start.pushed.reverse ++ nodes).Nodup by
      simpa [Past.start] using hn)
  have hpath := hr.path
  have hstack := hr.stack
  simp only [hpushed, Past.start, List.append_nil, List.head?_reverse, List.getLast?_reverse, hc,
    Bool.false_eq_true, if_false] at hpath hstack
  subst hstack
  exact ⟨heap', _, hpush, rfl, rfl, hpath⟩

/-! ## What it does to the stack -/

/-- **`clear` frees exactly the nodes pushed** when the first of them led to
no other. -/
theorem clear_frees_iff (heap : Heap) (hn : nodes.Nodup) :
    FreesPushed heap nodes ↔ nodes.head?.bind heap.next = none := by
  obtain ⟨heap', s, hpush, -, -, hpath⟩ := pushAll_ok heap hn
  refine ⟨fun ⟨heap'', stack, hpush', hret⟩ => ?_, fun hend => ?_⟩
  · cases hpush.symm.trans hpush'
    obtain ⟨xs, hlist, hperm⟩ := clear_returns_iff.mp hret
    obtain ⟨zs, rfl, hzs⟩ := hlist.after_path hpath
    have hlen := hperm.length_eq
    rw [List.length_append, List.length_reverse] at hlen
    obtain rfl : zs = [] := List.length_eq_zero_iff.mp (by omega)
    exact isList_nil.mp hzs
  · rw [hend] at hpath
    exact ⟨heap', some s, hpush, clear_returns_iff.mpr ⟨_, hpath, List.reverse_perm nodes⟩⟩

/-- **`clear` clears** the stack nothing was pushed on, and no other. -/
theorem clear_clears_iff (heap : Heap) (hn : nodes.Nodup) : Clears heap nodes ↔ nodes = [] := by
  obtain ⟨heap', s, hpush, htop, hbottom, hpath⟩ := pushAll_ok heap hn
  refine ⟨fun ⟨heap'', stack, hpush', hret⟩ => ?_, fun hempty => ?_⟩
  · cases hpush.symm.trans hpush'
    obtain ⟨xs, -, hperm, hcleared⟩ := clear_returns_iff.mp hret
    by_contra hne
    -- the last node pushed was freed, and `top` still leads to it
    have hlast : nodes.getLast? = some (nodes.getLast hne) := List.getLast?_eq_some_getLast hne
    refine hcleared.top s rfl _ (hperm.mem_iff.mpr (List.getLast_mem hne)) ?_
    rw [htop, hlast]
  · subst hempty
    obtain ⟨top, bottom⟩ := s
    obtain rfl : top = none := htop
    obtain rfl : bottom = none := hbottom
    refine ⟨heap', _, hpush, clear_returns_iff.mpr ⟨[], rfl, List.Perm.refl [], ?_⟩⟩
    exact {
      empty := rfl
      lenth := ⟨1, fun fuel hfuel => ⟨0, lenth_path (path_nil.mpr rfl) nofun hfuel, rfl⟩⟩
      top := fun _ _ a ha => by simp at ha
      bottom := fun _ _ a ha => by simp at ha }

theorem clear_clears_two : Clears (Heap.ofList [(1, some 1), (2, none)]) [0, 1] ↔ [0, 1] = ([] : List Addr) :=
  clear_clears_iff _ (by decide)

/-- One node is pushed that leads to another, as `printLinkListWithOppositeSort`
does first: both are freed, and the stack still refers to the first. -/
theorem clear_frees_next :
    let heap := Heap.ofList [(1, some 1), (2, none)]
    pushAll heap [0] = .ok (heap, some { top := some 0, bottom := some 0 }) ∧
    clear 3 heap (some { top := some 0, bottom := some 0 }) =
      .ok (some { top := some 0, bottom := some 0 }, [0, 1]) ∧
    ¬ Clears heap [0] := by
  refine ⟨rfl, rfl, fun ⟨heap', stack, hpush, hret⟩ => ?_⟩
  cases hpush
  obtain ⟨xs, hlist, hperm, -⟩ := clear_returns_iff.mp hret
  obtain rfl : xs = [0] := List.perm_singleton.mp hperm
  exact absurd hlist (by decide)

end LearningDemo.DataStructure
