/-
How far `Stack.c` refines a stack.

`Past` is what the callers did so far, with the abstract stack they expect
(`live`). What the pointers then hold is a function of it (`Rep`), as long
as no node is pushed twice: `pop` takes nothing off, so `top` is the last
node ever pushed and `bottom` the first, unless a `pop` cleared it. So each
answer is right in exactly the pasts of `Past.meets`, and
`stack_refines` says it of whole runs.
-/
import LearningDemo.Stack

namespace LearningDemo.DataStructure

open Imperative Linked

/-- The callers' side of a run. -/
structure Past where
  /-- Every node pushed, the last first. -/
  pushed : List Addr
  /-- The nodes pushed and not popped since, the last first: the abstract stack. -/
  live : List Addr
  pops : Nat
  /-- The last push or pop was a pop. -/
  afterPop : Bool
  /-- A pop came when one node had been pushed, and its `next` was `NULL`. -/
  cleared : Bool

namespace Past

def start : Past := { pushed := [], live := [], pops := 0, afterPop := false, cleared := false }

/-- What the callers keep to: no node is pushed that is on the stack, and
nothing is popped from an empty one. -/
def legal (past : Past) : Op → Prop
  | .push node => node ∉ past.live
  | .pop => past.live ≠ []
  | .empty | .lenth => True

/-- What the callers expect. -/
def answer (past : Past) : Op → Answer
  | .push _ => .unit
  | .pop => .node past.live.head?
  | .empty => .bool (past.pushed.length == past.pops)
  | .lenth => .int past.live.length

/-- The past after one more operation; `next` are the nodes' fields before the run. -/
def after (next : Addr → Ptr) (past : Past) : Op → Past
  | .push node => { past with pushed := node :: past.pushed, live := node :: past.live, afterPop := false }
  | .pop => { past with
      live := past.live.tail, pops := past.pops + 1, afterPop := true
      cleared := past.cleared || (past.pushed.length == 1 && (past.pushed.head?.bind next).isNone) }
  | .empty | .lenth => past

/-- When the code's answer is right and it keeps to its representation. -/
def meets (past : Past) : Op → Prop
  | .push node => node ∉ past.pushed
  | .pop => past.afterPop = false
  | .empty => past.pushed = [] ∨ (2 ≤ past.pushed.length ∧ past.live ≠ []) ∨
      (past.pushed.length = 1 ∧ past.live = [] ∧ past.cleared = false)
  | .lenth => past.pushed = [] ∨ (past.pops = 1 ∧ past.cleared = false)

/-- Every operation of a run has `P` of its past. -/
def all (P : Past → Op → Prop) (next : Addr → Ptr) (past : Past) : List Op → Prop
  | [] => True
  | op :: ops => P past op ∧ all P next (past.after next op) ops

/-- The answers expected in a run. -/
def answers (next : Addr → Ptr) (past : Past) : List Op → List Answer
  | [] => []
  | op :: ops => past.answer op :: answers next (past.after next op) ops

/-- A push is of a node never pushed before. -/
def fresh (past : Past) : Op → Prop
  | .push node => node ∉ past.pushed
  | _ => True

theorem meets_fresh {past : Past} : ∀ {op : Op}, past.meets op → past.fresh op
  | .push _, h => h
  | .pop, _ | .empty, _ | .lenth, _ => trivial

theorem all_mono {P Q : Past → Op → Prop} {next : Addr → Ptr}
    (hPQ : ∀ past op, P past op → Q past op) :
    ∀ {past : Past} {ops : List Op}, all P next past ops → all Q next past ops
  | _, [], _ => trivial
  | past, op :: _, h => ⟨hPQ past op h.1, all_mono hPQ h.2⟩

/-! ## What the callers' side keeps -/

/-- The abstract stack is what was pushed less what was popped. -/
structure Valid (past : Past) : Prop where
  nodup : past.pushed.Nodup
  count : past.live.length + past.pops = past.pushed.length
  head : past.afterPop = false → past.live.head? = past.pushed.head?
  tail : past.afterPop = true → past.live.Sublist past.pushed.tail
  sub : past.live.Sublist past.pushed
  cleared : past.cleared = true → 1 ≤ past.pops

theorem start_valid : Valid start where
  nodup := List.nodup_nil
  count := rfl
  head _ := rfl
  tail h := by cases h
  sub := List.Sublist.refl []
  cleared h := by cases h

theorem Valid.not_cleared {past : Past} (hv : Valid past) (h : past.pushed = []) : past.cleared = false := by
  have hcount := hv.count
  rw [h, List.length_nil] at hcount
  refine Bool.eq_false_iff.mpr fun hc => ?_
  have := hv.cleared hc
  omega

theorem Valid.after {past : Past} (hv : Valid past) (next : Addr → Ptr) :
    ∀ {op : Op}, past.legal op → past.fresh op → Valid (past.after next op)
  | .push node, _, hf => {
      nodup := List.nodup_cons.mpr ⟨hf, hv.nodup⟩
      count := by
        have := hv.count
        simp only [Past.after, List.length_cons]
        omega
      head := fun _ => rfl
      tail := nofun
      sub := hv.sub.cons_cons node
      cleared := hv.cleared }
  | .pop, hl, _ => {
      nodup := hv.nodup
      count := by
        have := hv.count
        have := List.length_pos_of_ne_nil hl
        simp only [Past.after, List.length_tail]
        omega
      head := nofun
      tail := fun _ => hv.sub.tail
      sub := (List.tail_sublist past.live).trans hv.sub
      cleared := fun _ => by simp only [Past.after]; omega }
  | .empty, _, _ => hv
  | .lenth, _, _ => hv

end Past

/-! ## What the pointers hold -/

/-- `top` is the last node pushed, `bottom` the first unless a pop cleared
it; the nodes lead from the one to the other, and nothing else is written. -/
structure Rep (next : Addr → Ptr) (past : Past) (heap : Heap) (stack : Option Stack) : Prop where
  stack : stack = some { top := past.pushed.head?
                         bottom := if past.cleared then none else past.pushed.getLast? }
  path : Path heap.next past.pushed.head? past.pushed (past.pushed.getLast?.bind next)
  other : ∀ x, x ∉ past.pushed → heap.next x = next x
  cleared : past.cleared = true → past.pushed.getLast?.bind next = none

theorem Rep.init (heap : Heap) : Rep heap.next .start heap initStack where
  stack := rfl
  path := rfl
  other _ _ := rfl
  cleared h := by cases h

theorem lenth_walk {heap : Heap} {bottom : Ptr} : ∀ {xs : List Addr} {p : Ptr} {fuel n : Nat},
    Path heap.next p xs bottom → (∀ x ∈ xs, bottom ≠ some x) → xs.length < fuel →
    whileLoop (fun (s : Ptr × Nat) => pure (s.1 != bottom))
      (fun s => do pure (← heap.getNext s.1, s.2 + 1)) fuel (p, n) = .ok (bottom, n + xs.length)
  | [], p, fuel, n, hp, _, hf => by
    obtain ⟨m, rfl⟩ : ∃ m, fuel = m + 1 := ⟨fuel - 1, by simp at hf; omega⟩
    obtain rfl : p = bottom := hp
    exact whileLoop_stop (by simp)
  | x :: xs, p, fuel, n, hp, hne, hf => by
    obtain ⟨m, rfl⟩ : ∃ m, fuel = m + 1 := ⟨fuel - 1, by simp at hf; omega⟩
    obtain ⟨rfl, hxs⟩ := path_cons.mp hp
    have hx : (some x != bottom) = true := by simpa using (hne x (by simp)).symm
    refine Eq.trans (whileLoop_turn (by simp [hx]) rfl) ?_
    rw [lenth_walk hxs (fun y hy => hne y (List.mem_cons_of_mem x hy)) (by simp at hf; omega)]
    simp only [List.length_cons, Except.ok.injEq, Prod.mk.injEq, true_and]
    omega

/-- `lenth` is the number of nodes from `top` before `bottom`. -/
theorem lenth_path {heap : Heap} {top bottom : Ptr} {xs : List Addr} {fuel : Nat}
    (hp : Path heap.next top xs bottom) (hne : ∀ x ∈ xs, bottom ≠ some x) (hf : xs.length < fuel) :
    lenth fuel heap (some { top, bottom }) = .ok xs.length := by
  have hwalk := lenth_walk (n := 0) hp hne hf
  rw [Nat.zero_add] at hwalk
  exact bind_ok.mpr ⟨_, hwalk, rfl⟩

/-! ## One operation -/

/-- The node on top leads to the one below; the lowest to what its field held. -/
theorem Rep.below {next : Addr → Ptr} {past : Past} {heap : Heap} {stack : Option Stack} {t : Addr}
    {l : List Addr} (hr : Rep next past heap stack) (hp : past.pushed = t :: l) :
    heap.next t = if l = [] then next t else l.head? := by
  have hpath := hr.path
  rw [hp] at hpath
  obtain ⟨-, hl⟩ := path_cons.mp hpath
  cases l with
  | nil => simpa using hl
  | cons u l => simpa using (path_cons.mp hl).1

theorem Rep.push {next : Addr → Ptr} {past : Past} {heap : Heap} {stack : Option Stack} {node : Addr}
    (hv : past.Valid) (hr : Rep next past heap stack) (hf : node ∉ past.pushed) :
    ∃ heap' stack', push heap stack (some node) = .ok (heap', stack') ∧
      Rep next (past.after next (.push node)) heap' stack' := by
  obtain rfl := hr.stack
  have hnode : heap.next node = next node := hr.other node hf
  cases hp : past.pushed with
  | nil =>
    have hc := hv.not_cleared hp
    refine ⟨heap, some { top := some node, bottom := some node }, by simp [DataStructure.push], ?_⟩
    exact {
      stack := by simp [Past.after, hp, hc]
      path := by simp [Past.after, hp, hnode]
      other := fun x _ => hr.other x (by simp [hp])
      cleared := fun h => by simp [Past.after, hc] at h }
  | cons t l =>
    have hpath := hr.path
    rw [hp] at hpath hf
    refine ⟨heap.link node (some t), some {
        top := some node
        bottom := if past.cleared then none else past.pushed.getLast? }, by simp [DataStructure.push, hp], ?_⟩
    exact {
      stack := by simp [Past.after, hp, List.getLast?_cons_cons]
      path := by
        simp only [Past.after, hp, List.head?_cons, List.getLast?_cons_cons, Heap.link_next]
        refine path_cons.mpr ⟨rfl, ?_⟩
        rw [Function.update_self]
        exact hpath.update hf
      other := fun x hx => by
        simp only [Past.after, List.mem_cons, not_or] at hx
        rw [Heap.link_next, Function.update_of_ne hx.1]
        exact hr.other x hx.2
      cleared := fun h => by
        have hlast := hr.cleared h
        simpa [Past.after, hp, List.getLast?_cons_cons] using hlast }

theorem Rep.pop {next : Addr → Ptr} {past : Past} {heap : Heap} {stack : Option Stack}
    (hv : past.Valid) (hr : Rep next past heap stack) (hl : past.live ≠ []) :
    ∃ stack', pop heap stack = .ok (stack', past.pushed.head?) ∧
      Rep next (past.after next .pop) heap stack' := by
  obtain rfl := hr.stack
  cases hp : past.pushed with
  | nil => exact absurd (List.eq_nil_of_sublist_nil (hp ▸ hv.sub)) hl
  | cons t l =>
    have hbelow := hr.below hp
    have hlast := hr.cleared
    by_cases hn : heap.next t = none
    · -- the bottom was reached: `pop` clears it
      have hl0 : l = [] := by
        cases l with
        | nil => rfl
        | cons u l => rw [if_neg (by simp), hn] at hbelow; simp at hbelow
      subst hl0
      have hnt : next t = none := by simpa [hn] using hbelow.symm
      refine ⟨some { top := some t, bottom := none }, by simp [DataStructure.pop, hn], ?_⟩
      exact {
        stack := by simp [Past.after, hp, hnt]
        path := hr.path
        other := hr.other
        cleared := fun _ => by simp [Past.after, hp, hnt] }
    · have hc : (past.after next .pop).cleared = past.cleared := by
        cases l with
        | nil => simp only [if_true] at hbelow; simp [Past.after, hp, ← hbelow, hn]
        | cons u l => simp [Past.after, hp]
      refine ⟨_, by simp [DataStructure.pop, hn]; rfl, ?_⟩
      exact {
        stack := by rw [hc]; simp [Past.after, hp]
        path := hr.path
        other := hr.other
        cleared := fun h => hlast (hc ▸ h) }

theorem Rep.empty {next : Addr → Ptr} {past : Past} {heap : Heap} {stack : Option Stack}
    (hv : past.Valid) (hr : Rep next past heap stack) :
    empty stack = (past.pushed.length == past.pops) ↔ past.meets .empty := by
  obtain rfl := hr.stack
  have hcount := hv.count
  have hcleared := hv.cleared
  cases hp : past.pushed with
  | nil =>
    have hc := hv.not_cleared hp
    have hpops : past.pops = 0 := by rw [hp, List.length_nil] at hcount; omega
    simp [DataStructure.empty, Past.meets, hp, hc, hpops]
  | cons t l =>
    have hlive : past.live = [] ↔ past.pushed.length = past.pops := by
      rw [← List.length_eq_zero_iff]
      omega
    rw [hp] at hlive hcount
    cases l with
    | nil =>
      cases hc : past.cleared with
      | true =>
        have := hcleared hc
        have hone : past.pops = 1 := by simp only [List.length_cons, List.length_nil] at hcount; omega
        simp [DataStructure.empty, Past.meets, hp, hc, hone]
      | false =>
        have hbool : (true = ([t].length == past.pops)) ↔ past.live = [] := by rw [hlive]; simp
        simpa [DataStructure.empty, Past.meets, hp, hc] using hbool
    | cons u l =>
      have hne : some t ≠ (u :: l).getLast? := fun he =>
        (List.nodup_cons.mp (hp ▸ hv.nodup)).1 (List.mem_of_getLast? he.symm)
      have hfalse : DataStructure.empty
          (some { top := some t, bottom := if past.cleared then none else (u :: l).getLast? }) = false := by
        cases past.cleared <;> simp [DataStructure.empty, hne]
      have hmeets : past.meets .empty ↔ past.live ≠ [] := by simp [Past.meets, hp]
      rw [List.head?_cons, List.getLast?_cons_cons, hfalse, hmeets, ne_eq, hlive]
      simp

theorem Rep.lenth {next : Addr → Ptr} {past : Past} {heap : Heap} {stack : Option Stack} {fuel : Nat}
    (hv : past.Valid) (hr : Rep next past heap stack) (hf : past.pushed.length < fuel) :
    ∃ n, lenth fuel heap stack = .ok n ∧ (n = past.live.length ↔ past.meets .lenth) := by
  obtain rfl := hr.stack
  have hcount := hv.count
  have hpath := hr.path
  cases hc : past.cleared with
  | true =>
    have hpops := hv.cleared hc
    rw [hr.cleared hc] at hpath
    refine ⟨past.pushed.length, ?_, ?_⟩
    · rw [if_pos rfl]
      exact lenth_path hpath (by simp) hf
    · have hne : past.pushed ≠ [] := fun h => by rw [h, List.length_nil] at hcount; omega
      simp only [Past.meets, hc, hne, false_or]
      constructor
      · intro h; omega
      · intro h; cases h.2
  | false =>
    rcases List.eq_nil_or_concat past.pushed with hp | ⟨l, b, hp⟩
    · rw [hp] at hpath hcount hf
      refine ⟨0, ?_, ?_⟩
      · rw [hp, if_neg (by simp)]
        exact lenth_path hpath (by simp) hf
      · have hlive : past.live.length = 0 := by rw [List.length_nil] at hcount; omega
        simp [Past.meets, hp, hlive]
    · rw [List.concat_eq_append] at hp
      have hnodup := hv.nodup
      rw [hp] at hpath hcount hf hnodup
      obtain ⟨hl, -⟩ := path_snoc.mp hpath
      have hb : ∀ x ∈ l, some b ≠ some x := fun x hx he => by
        have := (List.nodup_append.mp hnodup).2.2 x hx b (by simp)
        exact this (Option.some.inj he).symm
      refine ⟨l.length, ?_, ?_⟩
      · rw [hp, if_neg (by simp), List.getLast?_concat]
        exact lenth_path hl hb (by simp at hf; omega)
      · have hne : past.pushed ≠ [] := by simp [hp]
        simp only [List.length_append, List.length_cons, List.length_nil] at hcount
        simp only [Past.meets, hne, hc, false_or, and_true]
        omega

/-- **One operation**: it returns and keeps the representation, and its
answer is the expected one in the pasts of `Past.meets` only. -/
theorem Rep.perform {next : Addr → Ptr} {past : Past} {heap : Heap} {stack : Option Stack} {op : Op}
    {fuel : Nat} (hv : past.Valid) (hr : Rep next past heap stack) (hl : past.legal op)
    (hf : past.fresh op) (hfuel : past.pushed.length < fuel) :
    ∃ heap' stack' answer, perform fuel heap stack op = .ok ((heap', stack'), answer) ∧
      Rep next (past.after next op) heap' stack' ∧ (answer = past.answer op ↔ past.meets op) := by
  cases op with
  | push node =>
    obtain ⟨heap', stack', h, hr'⟩ := hr.push hv hf
    exact ⟨heap', stack', .unit, by simp [DataStructure.perform, h], hr', iff_of_true rfl hf⟩
  | pop =>
    obtain ⟨stack', h, hr'⟩ := hr.pop hv hl
    refine ⟨heap, stack', .node past.pushed.head?, by simp [DataStructure.perform, h], hr', ?_⟩
    simp only [Past.answer, Answer.node.injEq, Past.meets]
    constructor
    · -- a node below the last pushed one is another node
      intro he
      by_contra ha
      have htail := hv.tail (by simpa using ha)
      cases hp : past.pushed with
      | nil => exact hl (List.eq_nil_of_sublist_nil (hp ▸ hv.sub))
      | cons t l =>
        rw [hp] at he htail
        have hmem : t ∈ past.live := List.mem_of_head? he.symm
        exact (List.nodup_cons.mp (hp ▸ hv.nodup)).1 (htail.subset hmem)
    · intro ha
      exact (hv.head ha).symm
  | empty =>
    refine ⟨heap, stack, .bool (DataStructure.empty stack), rfl, hr, ?_⟩
    simpa [Past.answer] using hr.empty hv
  | lenth =>
    obtain ⟨n, h, hn⟩ := hr.lenth hv hfuel
    refine ⟨heap, stack, .int n, by simp [DataStructure.perform, h], hr, ?_⟩
    simpa [Past.answer] using hn

/-! ## Whole runs -/

theorem Past.after_pushed_length (next : Addr → Ptr) (past : Past) (op : Op) :
    (past.after next op).pushed.length ≤ past.pushed.length + 1 := by
  cases op <;> simp [Past.after]

/-- A run whose pushes are fresh returns, and all its answers are expected
ones exactly when every operation came in a past of `Past.meets`. -/
theorem Rep.performAll {next : Addr → Ptr} : ∀ {ops : List Op} {past : Past} {heap : Heap}
    {stack : Option Stack} {fuel : Nat}, past.Valid → Rep next past heap stack →
    past.all Past.legal next ops → past.all Past.fresh next ops → past.pushed.length + ops.length < fuel →
    ∃ answers, performAll fuel heap stack ops = .ok answers ∧
      (answers = past.answers next ops ↔ past.all Past.meets next ops) := by
  intro ops
  induction ops with
  | nil =>
    intro past heap stack fuel _ _ _ _ _
    exact ⟨[], rfl, iff_of_true rfl trivial⟩
  | cons op ops ih =>
    intro past heap stack fuel hv hr hl hf hfuel
    have hlen := past.after_pushed_length next op
    rw [List.length_cons] at hfuel
    obtain ⟨heap', stack', answer, hop, hr', ha⟩ := hr.perform hv hl.1 hf.1 (show _ < fuel by omega)
    obtain ⟨answers, hops, has⟩ := ih (hv.after next hl.1 hf.1) hr' hl.2 hf.2 (show _ < fuel by omega)
    refine ⟨answer :: answers, by simp [DataStructure.performAll, hop, hops], ?_⟩
    simp only [Past.answers, List.cons.injEq, Past.all, ha, has]

/-- `ops`, from `initStack` on, are all answered as a stack answers them. -/
def Refines (heap : Heap) (ops : List Op) : Prop :=
  Returns (fun fuel => performAll fuel heap initStack ops) (· = Past.start.answers heap.next ops)

theorem refines_iff_of_fresh {heap : Heap} {ops : List Op} (hl : Past.start.all Past.legal heap.next ops)
    (hf : Past.start.all Past.fresh heap.next ops) :
    Refines heap ops ↔ Past.start.all Past.meets heap.next ops := by
  have hrun : ∀ fuel, ops.length < fuel → ∃ answers, performAll fuel heap initStack ops = .ok answers ∧
      (answers = Past.start.answers heap.next ops ↔ Past.start.all Past.meets heap.next ops) :=
    fun fuel hfuel => (Rep.init heap).performAll Past.start_valid hl hf (by simpa [Past.start] using hfuel)
  constructor
  · intro ⟨n, h⟩
    obtain ⟨r, hr, he⟩ := h (max n (ops.length + 1)) (by omega)
    obtain ⟨answers, ha, hiff⟩ := hrun (max n (ops.length + 1)) (by omega)
    obtain rfl : answers = r := Except.ok.inj (ha.symm.trans hr)
    exact hiff.mp he
  · intro hm
    refine ⟨ops.length + 1, fun fuel hfuel => ?_⟩
    obtain ⟨answers, ha, hiff⟩ := hrun fuel (by omega)
    exact ⟨answers, ha, hiff.mpr hm⟩

/-- **Where `Stack.c` is a stack.** A run whose operations all come in a past
of `Past.meets` gets a stack's answers; and as long as no node is pushed
twice no other run does. -/
theorem stack_refines (heap : Heap) (ops : List Op) (hl : Past.start.all Past.legal heap.next ops) :
    (Past.start.all Past.meets heap.next ops → Refines heap ops) ∧
      (Past.start.all Past.fresh heap.next ops →
        Refines heap ops → Past.start.all Past.meets heap.next ops) := by
  constructor
  · intro hm
    exact (refines_iff_of_fresh hl (Past.all_mono (fun _ _ => Past.meets_fresh) hm)).mpr hm
  · intro hf
    exact (refines_iff_of_fresh hl hf).mp

/-- Two nodes pushed, a pop between them, and both queries. -/
theorem stack_refines_round :
    Refines (Heap.ofList [(1, some 1), (2, none)]) [.empty, .push 0, .pop, .empty, .push 1, .lenth, .empty] :=
  (stack_refines _ _ (by simp [Past.all, Past.legal, Past.after, Past.start, Heap.ofList])).1
    (by simp [Past.all, Past.meets, Past.after, Past.start, Heap.ofList])

/-- Two pushes and two pops: the second pop returns the same node again. -/
theorem stack_pops_twice :
    ¬ ∀ (heap : Heap) (ops : List Op), Past.start.all Past.legal heap.next ops → Refines heap ops := by
  intro h
  obtain ⟨fuel, r, hr, he⟩ := (h (Heap.ofList [(1, none), (2, none)]) [.push 0, .push 1, .pop, .pop]
    (by simp [Past.all, Past.legal, Past.after, Past.start])).elim
  obtain rfl : [.unit, .unit, .node (some 1), .node (some 1)] = r := Except.ok.inj hr
  exact absurd he (by decide)

end LearningDemo.DataStructure
