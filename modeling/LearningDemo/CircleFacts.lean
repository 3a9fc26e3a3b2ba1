/-
What the two-pointer walks of `nodeHasCircle` and `circleStartNode` do on
every list of a finite memory.

On a cycle both are right, and the second walk stops at its entry
(`circleStartNode_entry`). On a list that ends they are right but for one
length: on a single node both pointers become `NULL` in the first turn and
compare equal, so `nodeHasCircle` answers `true` and `circleStartNode`
follows the `NULL` it took for a meeting point (`circle_detected_iff`).
-/
import LearningDemo.LinkList
import LearningDemo.Lib.Walk

namespace LearningDemo.LinkList

open Imperative Linked Floyd

variable {heap : Heap} {header : Ptr} {xs : List Addr} {mu lam t : Nat}

/-- The pointers after `t` turns. -/
def chaseAt (heap : Heap) (header : Ptr) (t : Nat) : Chase where
  before := walk heap.next header (2 * t)
  behind := walk heap.next header t

theorem getNext_walk {k : Nat} (h : (walk heap.next header k).isSome) :
    heap.getNext (walk heap.next header k) = .ok (walk heap.next header (k + 1)) := by
  obtain ⟨a, ha⟩ := Option.isSome_iff_exists.mp h
  simp [walk_succ, ha]

/-- One turn of either chase, from a state whose `before` is a node: the
slower pointer is one too. -/
theorem chaseStep_at (h : (walk heap.next header (2 * t)).isSome) :
    chaseStep heap (chaseAt heap header t) = .ok (chaseAt heap header (t + 1)) := by
  unfold chaseStep chaseAt
  have hbehind := isSome_of_le h (i := t) (by omega)
  simp only [getNext_walk h, getNext_walk hbehind, ok_bind, pure_ok]
  cases hn : walk heap.next header (2 * t + 1) with
  | none =>
    have hend : walk heap.next header (2 * (t + 1)) = none := walk_none_of_le hn (by omega)
    simp [hend]
  | some a =>
    have hstep : heap.getNext (some a) = .ok (walk heap.next header (2 * t + 2)) := by
      rw [← hn]; exact getNext_walk (by simp [hn])
    simp [hstep, Nat.mul_add]

/-! ## The chase on a list that ends -/

/-- On a list of two nodes or more the two pointers are never equal after a turn. -/
theorem chase_apart (h : IsList heap.next header xs) (hlen : xs.length ≠ 1)
    (ht : (walk heap.next header (2 * t)).isSome) :
    walk heap.next header (2 * (t + 1)) ≠ walk heap.next header (t + 1) := by
  have hlt : 2 * t < xs.length := by simpa [h.walk_eq] using ht
  refine fun he => h.walk_ne (i := t + 1) (j := 2 * (t + 1)) (by omega) ?_ he.symm
  have hlt' : t + 1 < xs.length := by omega
  simp [h.walk_eq, hlt']

/-- The bound on the turns: `before` is still on the list. -/
def OnList (heap : Heap) (header : Ptr) (xs : List Addr) (k : Nat) (s : Chase) : Prop :=
  ∃ t, s = chaseAt heap header t ∧ t + k = xs.length

theorem OnList.turn {k : Nat} {s : Chase} (hs : OnList heap header xs k s)
    (h : IsList heap.next header xs) (hlen : xs.length ≠ 1) (hb : s.before.isSome) :
    ∃ s', chaseStep heap s = .ok s' ∧ s'.before ≠ s'.behind ∧ ∃ j, OnList heap header xs j s' ∧ j < k := by
  obtain ⟨t, rfl, hk⟩ := hs
  have hlt : 2 * t < xs.length := by simpa [chaseAt, h.walk_eq] using hb
  exact ⟨_, chaseStep_at hb, chase_apart h hlen hb, k - 1, ⟨t + 1, rfl, by omega⟩, by omega⟩

theorem nodeHasCircle_list (h : IsList heap.next header xs) (hlen : xs.length ≠ 1) :
    Returns (fun fuel => nodeHasCircle fuel heap header) (· = false) := by
  refine ⟨xs.length + 1, fun fuel hfuel => ⟨false, ?_, rfl⟩⟩
  have hloop : ∃ e, loop chaseMore (hasCircleTurn heap) fuel ⟨header, header⟩ = .ok e ∧
      ∃ s, e = .left s := by
    refine loop_returns (I := OnList heap header xs) (fun k s hs => ?_) ⟨0, rfl, Nat.zero_add _⟩ hfuel
    cases hb : s.before.isSome with
    | false => exact .inl ⟨congrArg Except.ok hb, s, rfl⟩
    | true =>
      obtain ⟨s', hs', hne, hnext⟩ := hs.turn h hlen hb
      exact .inr ⟨congrArg Except.ok hb, .next s', by simp [hasCircleTurn, hs', hne], hnext⟩
  obtain ⟨-, he, s, rfl⟩ := hloop
  show nodeHasCircle fuel heap header = .ok false
  unfold nodeHasCircle
  split
  · rfl
  · rw [he]; rfl

theorem circleStartNode_list (h : IsList heap.next header xs) (hlen : xs.length ≠ 1) :
    Returns (fun fuel => circleStartNode fuel heap header) (· = none) := by
  refine ⟨xs.length + 1, fun fuel hfuel => ⟨none, ?_, rfl⟩⟩
  have hloop : ∃ e, loop meetMore (meetTurn heap) fuel ⟨⟨header, header⟩, false⟩ = .ok e ∧
      ∃ s, e = .left ⟨s, false⟩ := by
    refine loop_returns (I := fun k s => OnList heap header xs k s.toChase ∧ s.flag = false)
      (fun k s hs => ?_) ⟨⟨0, rfl, Nat.zero_add _⟩, rfl⟩ hfuel
    obtain ⟨s, flag⟩ := s
    obtain ⟨hs, rfl⟩ : OnList heap header xs k s ∧ flag = false := hs
    cases hb : s.before.isSome with
    | false => exact .inl ⟨congrArg Except.ok hb, s, rfl⟩
    | true =>
      obtain ⟨s', hs', hne, j, hj, hlt⟩ := hs.turn h hlen hb
      exact .inr ⟨congrArg Except.ok hb, .next ⟨s', false⟩, by simp [meetTurn, hs', hne], j, ⟨hj, rfl⟩, hlt⟩
  obtain ⟨-, he, s, rfl⟩ := hloop
  show circleStartNode fuel heap header = .ok none
  unfold circleStartNode
  split
  · rfl
  · rw [he]; rfl

/-! ## A single node -/

section Single

variable {a : Addr} (h : heap.next a = none)

include h

theorem chaseStep_single : chaseStep heap ⟨some a, some a⟩ = .ok ⟨none, none⟩ := by
  simp [chaseStep, h]

theorem nodeHasCircle_single (n : Nat) : nodeHasCircle (n + 1) heap (some a) = .ok true := by
  have hturn : hasCircleTurn heap ⟨some a, some a⟩ = .ok (.ret true) := by
    simp [hasCircleTurn, chaseStep_single h]
  unfold nodeHasCircle
  rw [if_neg (by simp), loop_ret (c := chaseMore) rfl hturn]
  rfl

theorem circleStartNode_single (n : Nat) : circleStartNode (n + 1) heap (some a) = .error .null := by
  have hmeet : meetTurn heap ⟨⟨some a, some a⟩, false⟩ = .ok (.brk ⟨⟨none, none⟩, true⟩) := by
    simp [meetTurn, chaseStep_single h]
  have henter : enterTurn heap ⟨some a, none⟩ = .error .null := by
    simp [enterTurn, h]
  unfold circleStartNode
  rw [if_neg (by simp), loop_brk (c := meetMore) rfl hmeet]
  simp [loop, enterMore, henter]

end Single

/-! ## The chase on a cycle -/

/-- The first turn after which the pointers are equal. -/
structure FirstMeet (heap : Heap) (header : Ptr) (meet : Nat) : Prop where
  pos : 0 < meet
  meets : walk heap.next header meet = walk heap.next header (2 * meet)
  first : ∀ t, 0 < t → t < meet → walk heap.next header t ≠ walk heap.next header (2 * t)

/-- Before the meeting, with the turns to come before the one that meets. -/
def NotMet (heap : Heap) (header : Ptr) (meet k : Nat) (s : Chase) : Prop :=
  ∃ t, s = chaseAt heap header t ∧ t + k + 1 = meet

section Cycle

variable (h : Circular heap.next header mu lam) {meet : Nat}

include h

theorem exists_firstMeet : ∃ meet, FirstMeet heap header meet := by
  classical
  have hex : ∃ t, 0 < t ∧ walk heap.next header t = walk heap.next header (2 * t) := by
    obtain ⟨t, ht, he⟩ := h.rho.exists_meet
    exact ⟨t, ht, by rw [walk_eq_iterate, walk_eq_iterate, he]⟩
  obtain ⟨hpos, hmeet⟩ := Nat.find_spec hex
  exact ⟨Nat.find hex, hpos, hmeet, fun t ht hlt he => Nat.find_min hex hlt ⟨ht, he⟩⟩

/-- A turn before the meeting: it meets, or comes closer to the one that does. -/
theorem NotMet.turn {k : Nat} {s : Chase} (hm : FirstMeet heap header meet) (hs : NotMet heap header meet k s) :
    s.before.isSome ∧ ∃ s', chaseStep heap s = .ok s' ∧
      ((s'.before = s'.behind ∧ s' = chaseAt heap header meet) ∨
        (s'.before ≠ s'.behind ∧ ∃ j, NotMet heap header meet j s' ∧ j < k)) := by
  obtain ⟨t, rfl, hk⟩ := hs
  refine ⟨h.isSome _, _, chaseStep_at (h.isSome _), ?_⟩
  by_cases hlast : t + 1 = meet
  · subst hlast
    exact .inl ⟨hm.meets.symm, rfl⟩
  · exact .inr ⟨(hm.first (t + 1) (by omega) (by omega)).symm, k - 1, ⟨t + 1, rfl, by omega⟩, by omega⟩

theorem nodeHasCircle_cycle : Returns (fun fuel => nodeHasCircle fuel heap header) (· = true) := by
  obtain ⟨meet, hm⟩ := exists_firstMeet h
  have hpos := hm.pos
  have hne : header ≠ none := Option.isSome_iff_ne_none.mp (h.isSome 0)
  refine ⟨meet, fun fuel hfuel => ⟨true, ?_, rfl⟩⟩
  have he : loop chaseMore (hasCircleTurn heap) fuel ⟨header, header⟩ = .ok (.returned true) := by
    refine loop_ends (I := NotMet heap header meet) (k := meet - 1) (fun k s hs => .inr ?_)
      ⟨0, rfl, by omega⟩ (by omega)
    obtain ⟨hb, s', hs', ⟨he, -⟩ | ⟨hne, hnext⟩⟩ := hs.turn h hm
    · exact ⟨congrArg Except.ok hb, .ret true, by simp [hasCircleTurn, hs', he], rfl⟩
    · exact ⟨congrArg Except.ok hb, .next s', by simp [hasCircleTurn, hs', hne], hnext⟩
  show nodeHasCircle fuel heap header = .ok true
  unfold nodeHasCircle
  rw [if_neg hne, he]
  rfl

theorem meet_loop {fuel : Nat} (hm : FirstMeet heap header meet) (hfuel : meet ≤ fuel) :
    loop meetMore (meetTurn heap) fuel ⟨⟨header, header⟩, false⟩ =
      .ok (.left ⟨chaseAt heap header meet, true⟩) := by
  have hpos := hm.pos
  refine loop_ends (I := fun k s => NotMet heap header meet k s.toChase ∧ s.flag = false) (k := meet - 1)
    (fun k s hs => .inr ?_) ⟨⟨0, rfl, by omega⟩, rfl⟩ (by omega)
  obtain ⟨s, flag⟩ := s
  obtain ⟨hs, rfl⟩ : NotMet heap header meet k s ∧ flag = false := hs
  obtain ⟨hb, s', hs', ⟨he, rfl⟩ | ⟨hne, j, hj, hlt⟩⟩ := hs.turn h hm
  · exact ⟨congrArg Except.ok hb, .brk ⟨_, true⟩, by simp [meetTurn, hs', he], rfl⟩
  · exact ⟨congrArg Except.ok hb, .next ⟨s', false⟩, by simp [meetTurn, hs', hne], j, ⟨hj, rfl⟩, hlt⟩

/-- The second loop returns the entry of the cycle. -/
theorem enter_loop {fuel : Nat} (hm : FirstMeet heap header meet) (hfuel : mu < fuel) :
    loop enterMore (enterTurn heap) fuel ⟨header, walk heap.next header (2 * meet)⟩ =
      .ok (.returned (walk heap.next header mu)) := by
  refine loop_ends (I := fun k s => ∃ i, s = ⟨walk heap.next header i, walk heap.next header (2 * meet + i)⟩ ∧
    i + k = mu) (k := mu) (fun k s hs => .inr ?_) ⟨0, rfl, Nat.zero_add mu⟩ hfuel
  obtain ⟨i, rfl, hk⟩ := hs
  have hentry := h.rho.entry_iff hm.pos (by rw [← walk_eq_iterate, ← walk_eq_iterate, hm.meets]) i
  rw [← walk_eq_iterate, ← walk_eq_iterate] at hentry
  refine ⟨congrArg Except.ok (h.isSome i), ?_⟩
  by_cases hi : mu ≤ i
  · obtain rfl : i = mu := by omega
    exact ⟨.ret _, by simp [enterTurn, hentry.mpr hi], rfl⟩
  · refine ⟨.next ⟨_, _⟩, ?_, k - 1, ⟨i + 1, rfl, by omega⟩, by omega⟩
    simp only [enterTurn, if_neg (mt hentry.mp hi), getNext_walk (h.isSome _), ok_bind, pure_ok]
    rfl

theorem circleStartNode_cycle :
    Returns (fun fuel => circleStartNode fuel heap header) (· = walk heap.next header mu) := by
  obtain ⟨meet, hm⟩ := exists_firstMeet h
  have hne : header ≠ none := Option.isSome_iff_ne_none.mp (h.isSome 0)
  refine ⟨meet + mu + 1, fun fuel hfuel => ⟨_, ?_, rfl⟩⟩
  show circleStartNode fuel heap header = .ok (walk heap.next header mu)
  unfold circleStartNode
  rw [if_neg hne, meet_loop h hm (by omega)]
  simp only [ok_bind, chaseAt]
  rw [if_neg (by simp), enter_loop h hm (by omega)]
  rfl

end Cycle

/-! ## The answers -/

/-- **`circleStartNode` finds the entry of the cycle.** On a list with a tail
of `mu` nodes before a cycle of `lam` it returns the node at distance `mu`,
the first from `header` that is on the cycle. -/
theorem circleStartNode_entry (h : Circular heap.next header mu lam) :
    Returns (fun fuel => circleStartNode fuel heap header) fun node =>
      node = walk heap.next header mu ∧ (∃ a, node = some a ∧ OnCycle heap.next a) ∧
      ∀ i < mu, ∀ b, walk heap.next header i = some b → ¬ OnCycle heap.next b := by
  rw [(circleStartNode_cycle h).iff_of_eq]
  obtain ⟨a, ha⟩ := Option.isSome_iff_exists.mp h.node
  refine ⟨rfl, ⟨a, ha, (h.onCycle_iff ha).mpr (Nat.le_refl mu)⟩, fun i hi b hb hon => ?_⟩
  have := (h.onCycle_iff hb).mp hon
  omega

/-- The list of `_test_cirleStartNode`: its fifth node leads back to the second. -/
def circleSample : Heap := .ofList [(1, some 1), (2, some 2), (3, some 3), (4, some 4), (5, some 1)]

theorem circleStartNode_sample : Circular circleSample.next (some 0) 1 4 ∧
    Returns (fun fuel => circleStartNode fuel circleSample (some 0)) fun node =>
      node = walk circleSample.next (some 0) 1 ∧ (∃ a, node = some a ∧ OnCycle circleSample.next a) ∧
      ∀ i < 1, ∀ b, walk circleSample.next (some 0) i = some b → ¬ OnCycle circleSample.next b :=
  have h : Circular circleSample.next (some 0) 1 4 := ⟨⟨by decide, by decide, by decide⟩, by decide⟩
  ⟨h, circleStartNode_entry h⟩

/-- `nodeHasCircle` says whether the walk from `header` visits a node twice,
and `circleStartNode` returns `NULL` just when it does not. -/
def DetectsCircle (heap : Heap) (header : Ptr) : Prop :=
  Returns (fun fuel => nodeHasCircle fuel heap header) (fun found => found = true ↔ Repeats heap.next header) ∧
  (Returns (fun fuel => circleStartNode fuel heap header) (· = none) ↔ ¬ Repeats heap.next header)

/-- The list of a single node. -/
def SingleNode (heap : Heap) (header : Ptr) : Prop := ∃ a, header = some a ∧ heap.next a = none

theorem isList_single_iff : IsList heap.next header xs → (xs.length = 1 ↔ SingleNode heap header) := by
  intro h
  constructor
  · intro hlen
    obtain ⟨a, rfl⟩ := List.length_eq_one_iff.mp hlen
    exact ⟨a, h.1, h.2⟩
  · intro ⟨a, hh, ha⟩
    have h1 : IsList heap.next header [a] := isList_cons.mpr ⟨hh, ha⟩
    rw [h.unique h1]
    rfl

theorem SingleNode.not_detected (h : SingleNode heap header) : ¬ DetectsCircle heap header := by
  obtain ⟨a, rfl, ha⟩ := h
  have hlist : IsList heap.next (some a) [a] := isList_cons.mpr ⟨rfl, ha⟩
  intro hd
  have htrue : Returns (fun fuel => nodeHasCircle fuel heap (some a)) (· = true) := by
    refine ⟨1, fun fuel hfuel => ?_⟩
    obtain ⟨n, rfl⟩ : ∃ n, fuel = n + 1 := ⟨fuel - 1, by omega⟩
    exact ⟨true, nodeHasCircle_single ha n, rfl⟩
  exact hlist.not_repeats ((htrue.iff_of_eq.mp hd.1).mp rfl)

/-- **When the cycle is detected.** In every finite memory, and from every
header in it, both functions are right exactly when the list is not a
single node. -/
theorem circle_detected_iff {K : Finset Addr} (hK : Confined heap.next (· ∈ K))
    (hh : ∀ a, header = some a → a ∈ K) : DetectsCircle heap header ↔ ¬ SingleNode heap header := by
  refine ⟨fun hd hs => hs.not_detected hd, fun hs => ?_⟩
  rcases ends_or_repeats hK hh with ⟨xs, hxs⟩ | hrep
  · have hlen : xs.length ≠ 1 := mt (isList_single_iff hxs).mp hs
    have hnot := hxs.not_repeats
    refine ⟨(nodeHasCircle_list hxs hlen).iff_of_eq.mpr (by simp [hnot]), ?_⟩
    exact iff_of_true (circleStartNode_list hxs hlen) hnot
  · obtain ⟨mu, lam, hc⟩ := hrep.circular
    refine ⟨(nodeHasCircle_cycle hc).iff_of_eq.mpr (by simp [hrep]), ?_⟩
    rw [(circleStartNode_cycle hc).iff_of_eq]
    exact iff_of_false (Option.isSome_iff_ne_none.mp hc.node) (not_not_intro hrep)

theorem circle_detected_sample : DetectsCircle circleSample (some 0) ↔ ¬ SingleNode circleSample (some 0) :=
  circle_detected_iff (K := {0, 1, 2, 3, 4}) (by decide) (by decide)

/-- Memory with one node, at 0, that ends its list. -/
def oneNode : Heap := .ofList [(1, none)]

theorem circle_single_misread : Confined oneNode.next (· ∈ ({0} : Finset Addr)) ∧
    (∀ fuel, nodeHasCircle (fuel + 1) oneNode (some 0) = .ok true ∧
      circleStartNode (fuel + 1) oneNode (some 0) = .error .null) ∧
    ¬ Repeats oneNode.next (some 0) ∧ ¬ DetectsCircle oneNode (some 0) :=
  ⟨by decide, fun fuel => ⟨nodeHasCircle_single rfl fuel, circleStartNode_single rfl fuel⟩,
    (show IsList oneNode.next (some 0) [0] from ⟨rfl, rfl⟩).not_repeats, SingleNode.not_detected ⟨0, rfl, rfl⟩⟩

end LearningDemo.LinkList
