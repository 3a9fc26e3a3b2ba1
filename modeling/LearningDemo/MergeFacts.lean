/-
What `mergeTwoSortList` does to two sorted lists.

Its loop stops as soon as one header stands on its last node, and the two
rests are then both written to the same `next`, the second over the first;
so with unequal heads a node is lost, or a `NULL` header is followed. With
equal heads the first header moves by the `next` just overwritten and both
walk the second list. `mergeTwoSortList_merges_iff` is what is left: when a
list is empty, two single nodes, or a single node before a list of its own
value (but for the last node) whose length is `2 ^ k + 2` — the walk hangs
the nodes it has passed between the new ones, round after round, and only
at the end of a round is none of them missing (`Tied`).
-/
import LearningDemo.LinkList
import Mathlib.Tactic.Ring
import Mathlib.Data.List.Perm.Basic

namespace LearningDemo.LinkList

open Imperative Linked List

/-! ## One turn -/

section Turn

variable {h : Heap} {p q t : Addr}

theorem mergeMore_some : mergeMore ⟨h, some p, some q, some t⟩ =
    .ok ((h.next p).isSome && (h.next q).isSome) := by
  cases hp : h.next p <;> simp [mergeMore, hp]

theorem mergeTurn_less (hlt : h.value p < h.value q) :
    mergeTurn ⟨h, some p, some q, some t⟩ =
      .ok ⟨h.link t (some p), (h.link t (some p)).next p, some q, some p⟩ := by
  simp [mergeTurn, hlt]

theorem mergeTurn_greater (hlt : h.value q < h.value p) :
    mergeTurn ⟨h, some p, some q, some t⟩ =
      .ok ⟨h.link t (some q), some p, (h.link t (some q)).next q, some q⟩ := by
  simp [mergeTurn, hlt, Int.not_lt.mpr (Int.le_of_lt hlt)]

theorem mergeTurn_tie (heq : h.value p = h.value q) :
    mergeTurn ⟨h, some p, some q, some t⟩ =
      .ok ⟨(h.link t (some p)).link p (some q), (h.link t (some p)).next p,
        ((h.link t (some p)).link p (some q)).next q, some q⟩ := by
  simp [mergeTurn, heq]

theorem mergeRest_some : mergeRest ⟨h, some p, some q, some t⟩ = .ok (h.link t (some q)) := by
  simp [mergeRest, Heap.link]

theorem mergeMore_true {s : Merge} (ht : mergeMore s = .ok true) :
    ∃ p q p' q', s.header1 = some p ∧ s.header2 = some q ∧ s.heap.next p = some p' ∧
      s.heap.next q = some q' := by
  obtain ⟨h, header1, header2, temp⟩ := s
  cases header1 with
  | none => simp [mergeMore] at ht
  | some p =>
    cases hp : h.next p with
    | none => simp [mergeMore, hp] at ht
    | some p' =>
      cases header2 with
      | none => simp [mergeMore, hp] at ht
      | some q =>
        cases hq : h.next q with
        | none => simp [mergeMore, hp, hq] at ht
        | some q' => exact ⟨p, q, p', q', rfl, rfl, hp, hq⟩

end Turn

/-! ## What a merge should give -/

/-- The returned list is acyclic, nondecreasing, and made of the nodes of
both lists, each once. -/
def Merged (xs ys : List Addr) (r : Heap × Ptr) : Prop :=
  ∃ zs, IsList r.1.next r.2 zs ∧ zs.Pairwise (r.1.value · ≤ r.1.value ·) ∧ zs ~ xs ++ ys

/-- What `mergeTwoSortList` is for, on the lists `xs` and `ys` of a heap. -/
def Merges (h : Heap) (header1 header2 : Ptr) (xs ys : List Addr) : Prop :=
  Returns (fun fuel => mergeTwoSortList fuel h header1 header2) (Merged xs ys)

theorem mergeTwoSortList_ok {h : Heap} {a b : Addr} {fuel : Nat} {r : Heap × Ptr}
    (hr : mergeTwoSortList fuel h (some a) (some b) = .ok r) :
    ∃ first s, mergeFirst h (some a) (some b) = .ok first ∧
      whileLoop mergeMore mergeTurn fuel first = .ok s ∧ mergeRest s = .ok r.1 ∧
      r.2 = first.tempNode := by
  simp only [mergeTwoSortList, reduceCtorEq, if_false, bind_ok] at hr
  obtain ⟨first, hf, s, hs, heap, hh, hr⟩ := hr
  cases hr
  exact ⟨first, s, hf, hs, hh, rfl⟩

theorem Merges.run {h : Heap} {a b : Addr} {xs ys : List Addr} {first : Merge}
    (hm : Merges h (some a) (some b) xs ys) (hf : mergeFirst h (some a) (some b) = .ok first) :
    ∃ fuel s heap, whileLoop mergeMore mergeTurn fuel first = .ok s ∧ mergeRest s = .ok heap ∧
      Merged xs ys (heap, first.tempNode) := by
  obtain ⟨fuel, ⟨heap, ret⟩, hr, hmerged⟩ := hm.elim
  obtain ⟨first', s, hf', hs, hh, rfl⟩ := mergeTwoSortList_ok hr
  obtain rfl := Except.ok.inj (hf.symm.trans hf')
  exact ⟨fuel, s, heap, hs, hh, hmerged⟩

/-! ## Unequal heads: a node is lost -/

/-- Three lists apart from each other: the merged nodes, ending at the tail
`t`, and the nodes from either header. -/
structure Apart (new t p q : Addr) (D P Q : List Addr) (h : Heap) : Prop where
  done : Path h.next (some new) D (some t)
  left : IsList h.next (some p) (p :: P)
  right : IsList h.next (some q) (q :: Q)
  nodup : (D ++ t :: (p :: P ++ q :: Q)).Nodup

/-- The state of a loop over lists apart, the first made of nodes of `all`. -/
def ApartState (new : Addr) (all : List Addr) (s : Merge) : Prop :=
  ∃ h t p q D P Q, s = ⟨h, some p, some q, some t⟩ ∧ Apart new t p q D P Q h ∧ ∀ x ∈ p :: P, x ∈ all

theorem Apart.takeLeft {new t p q p' : Addr} {D P Q : List Addr} {h : Heap}
    (hs : Apart new t p q D P Q h) (hp : h.next p = some p') :
    ∃ P', P = p' :: P' ∧ (h.link t (some p)).next p = some p' ∧
      Apart new p p' q (D ++ [t]) P' Q (h.link t (some p)) := by
  obtain ⟨hD, hP, hQ, hnd⟩ := hs
  have hP' : IsList h.next (some p') P := by simpa [hp] using hP
  cases P with
  | nil => simp at hP'
  | cons p₂ P' =>
    obtain rfl : p' = p₂ := Option.some.inj (isList_cons.mp hP').1
    simp only [List.nodup_append, List.nodup_cons, List.mem_append, List.mem_cons, List.cons_append] at hnd
    have htp : p ≠ t := by grind
    refine ⟨P', rfl, by simp [htp, hp], hD.update_last (by grind), ?_, hQ.update (by grind), ?_⟩
    · exact hP'.update (by grind)
    · simp only [List.nodup_append, List.nodup_cons, List.mem_append, List.mem_cons, List.cons_append]
      grind

theorem Apart.symm {new t p q : Addr} {D P Q : List Addr} {h : Heap} (hs : Apart new t p q D P Q h) :
    Apart new t q p D Q P h where
  done := hs.done
  left := hs.right
  right := hs.left
  nodup := ((List.Perm.append_left D (List.Perm.cons t List.perm_append_comm)).nodup_iff).mp hs.nodup

theorem ApartState.turn {new : Addr} {all : List Addr} {s s' : Merge} (hs : ApartState new all s)
    (hc : mergeMore s = .ok true) (hb : mergeTurn s = .ok s') : ApartState new all s' := by
  obtain ⟨h, t, p, q, D, P, Q, rfl, hA, hall⟩ := hs
  obtain ⟨_, _, p', q', hp₁, hq₁, hp, hq⟩ := mergeMore_true hc
  obtain rfl := Option.some.inj hp₁
  obtain rfl := Option.some.inj hq₁
  rcases Int.lt_trichotomy (h.value p) (h.value q) with hlt | heq | hlt
  · obtain ⟨P', rfl, hp', hA'⟩ := hA.takeLeft hp
    rw [mergeTurn_less hlt, hp'] at hb
    cases hb
    exact ⟨_, _, _, _, _, _, _, rfl, hA', fun x hx => hall x (by simp at hx ⊢; tauto)⟩
  · obtain ⟨P', rfl, hp', hA'⟩ := hA.takeLeft hp
    have hq₂ : (h.link t (some p)).next q = some q' := by
      have hnd := hA.nodup
      simp only [List.nodup_append, List.nodup_cons, List.mem_append, List.mem_cons, List.cons_append] at hnd
      have : q ≠ t := by grind
      simpa [this] using hq
    obtain ⟨Q', rfl, hq', hA₂⟩ := hA'.symm.takeLeft hq₂
    rw [mergeTurn_tie heq, hp', hq'] at hb
    cases hb
    exact ⟨_, _, _, _, _, _, _, rfl, hA₂.symm, fun x hx => hall x (by simp at hx ⊢; tauto)⟩
  · obtain ⟨Q', rfl, hq', hA'⟩ := hA.symm.takeLeft hq
    rw [mergeTurn_greater hlt, hq'] at hb
    cases hb
    exact ⟨_, _, _, _, _, _, _, rfl, hA'.symm, hall⟩

/-- A loop that starts on lists apart, neither empty, ends without the
nodes left of the first. -/
theorem ApartState.not_merged {new : Addr} {xs ys : List Addr} {fuel : Nat} {s r : Merge} {heap : Heap}
    (hs : ApartState new (xs ++ ys) s) (hr : whileLoop mergeMore mergeTurn fuel s = .ok r)
    (hh : mergeRest r = .ok heap) : ¬ Merged xs ys (heap, some new) := by
  obtain ⟨⟨h, t, p, q, D, P, Q, rfl, hA, hall⟩, -⟩ := whileLoop_ok (fun s s' => ApartState.turn) hs hr
  rw [mergeRest_some] at hh
  cases hh
  rintro ⟨zs, hzs, -, hperm⟩
  obtain ⟨hD, -, hQ, hnd⟩ := hA
  simp only [List.nodup_append, List.nodup_cons, List.mem_append, List.mem_cons, List.cons_append] at hnd
  have hlist : IsList (h.link t (some q)).next (some new) ((D ++ [t]) ++ q :: Q) :=
    isList_append.mpr ⟨some q, hD.update_last (by grind), hQ.update (by grind)⟩
  have hp : p ∈ (D ++ [t]) ++ q :: Q := by
    rw [← hzs.unique hlist]
    exact hperm.mem_iff.mpr (hall p (by simp))
  simp only [List.mem_append, List.mem_cons, List.not_mem_nil, or_false] at hp
  grind

/-! ## Equal heads before a longer first list: its rest is lost -/

/-- Every pointer of the loop stays in `K`. -/
structure Within (K : Addr → Prop) (s : Merge) : Prop where
  heap : Confined s.heap.next K
  header1 : ∀ x, s.header1 = some x → K x
  header2 : ∀ x, s.header2 = some x → K x
  temp : ∃ t, s.tempNode = some t ∧ K t

theorem Within.turn {K : Addr → Prop} {s s' : Merge} (hs : Within K s) (hc : mergeMore s = .ok true)
    (hb : mergeTurn s = .ok s') : Within K s' := by
  obtain ⟨hK, h1, h2, t, ht, hKt⟩ := hs
  obtain ⟨p, q, -, -, hp, hq, -, -⟩ := mergeMore_true hc
  obtain ⟨h, header1, header2, temp⟩ := s
  dsimp only at hK h1 h2 ht hp hq
  subst hp hq ht
  have hKp : K p := h1 p rfl
  have hKq : K q := h2 q rfl
  have link : ∀ {h : Heap} {x y : Addr}, Confined h.next K → K y → Confined (h.link x (some y)).next K :=
    fun hK hy => hK.update fun z hz => Option.some.inj hz ▸ hy
  rcases Int.lt_trichotomy (h.value p) (h.value q) with hlt | heq | hlt
  · rw [mergeTurn_less hlt] at hb
    cases hb
    exact ⟨link hK hKp, fun x hx => link hK hKp p hKp x hx, h2, p, rfl, hKp⟩
  · rw [mergeTurn_tie heq] at hb
    cases hb
    exact ⟨link (link hK hKp) hKq, fun x hx => link hK hKp p hKp x hx,
      fun x hx => link (link hK hKp) hKq q hKq x hx, q, rfl, hKq⟩
  · rw [mergeTurn_greater hlt] at hb
    cases hb
    exact ⟨link hK hKq, h1, fun x hx => link hK hKq q hKq x hx, q, rfl, hKq⟩

theorem Within.rest {K : Addr → Prop} {s : Merge} {heap : Heap} (hs : Within K s)
    (hh : mergeRest s = .ok heap) : Confined heap.next K := by
  obtain ⟨hK, h1, h2, t, ht, hKt⟩ := hs
  obtain ⟨h, header1, header2, temp⟩ := s
  dsimp only at hK h1 h2 ht
  subst ht
  cases header1 <;> cases header2 <;> simp [mergeRest] at hh <;> subst hh
  · exact hK
  · exact hK.update h2
  · exact hK.update h1
  · exact Confined.update (hK.update h1) h2

theorem Within.not_merged {K : Addr → Prop} {xs ys : List Addr} {new x : Addr} {fuel : Nat} {s r : Merge}
    {heap : Heap} (hs : Within K s) (hr : whileLoop mergeMore mergeTurn fuel s = .ok r)
    (hh : mergeRest r = .ok heap) (hnew : K new) (hx : x ∈ xs ++ ys) (hxK : ¬ K x) :
    ¬ Merged xs ys (heap, some new) := by
  have hw := (whileLoop_ok (fun s s' => Within.turn) hs hr).1
  rintro ⟨zs, hzs, -, hperm⟩
  exact hxK ((hw.rest hh).path (fun y hy => Option.some.inj hy ▸ hnew) hzs x (hperm.mem_iff.mpr hx))

/-! ## Equal heads, then a greater node: the list runs in a circle -/

/-- The second header and the tail go round in `S`, the first walks the
greater nodes outside. -/
structure Circling (S : Addr → Prop) (t p q : Addr) (P : List Addr) (h : Heap) : Prop where
  endless : Endless h.next S
  temp : S t
  header2 : S q
  left : IsList h.next (some p) (p :: P)
  apart : ∀ x ∈ p :: P, ¬ S x
  below : ∀ y, S y → ∀ x ∈ p :: P, h.value y ≤ h.value x
  sorted : (p :: P).Pairwise (h.value · ≤ h.value ·)

def CirclingState (new : Addr) (s : Merge) : Prop :=
  ∃ h t p q P S, s = ⟨h, some p, some q, some t⟩ ∧ Circling S t p q P h ∧ S new

theorem CirclingState.turn {new : Addr} {s s' : Merge} (hs : CirclingState new s)
    (hc : mergeMore s = .ok true) (hb : mergeTurn s = .ok s') : CirclingState new s' := by
  obtain ⟨h, t, p, q, P, S, rfl, ⟨hS, ht, hq, hP, hout, hle, hsort⟩, hnew⟩ := hs
  obtain ⟨_, _, p', _, hp₁, -, hp, -⟩ := mergeMore_true hc
  obtain rfl := Option.some.inj hp₁
  dsimp only at hp
  have hpS : ¬ S p := hout p (by simp)
  have hpt : p ≠ t := fun he => hpS (he ▸ ht)
  rcases Int.lt_trichotomy (h.value p) (h.value q) with hlt | heq | hlt
  · have := hle q hq p (by simp)
    omega
  · rw [mergeTurn_tie heq] at hb
    cases hb
    have hP' : IsList h.next (some p') P := by simpa [hp] using hP
    cases P with
    | nil => simp at hP'
    | cons p₂ P =>
      obtain rfl : p' = p₂ := Option.some.inj (isList_cons.mp hP').1
      have hnd := hP.nodup
      have hS' : Endless ((h.link t (some p)).link p (some q)).next (fun x => S x ∨ x = p) := by
        intro x hx
        by_cases hxp : x = p
        · exact ⟨q, by simp [hxp], .inl hq⟩
        by_cases hxt : x = t
        · exact ⟨p, by simp [hxt, hpt.symm], .inr rfl⟩
        obtain ⟨y, hy, hSy⟩ := hS x (hx.resolve_right hxp)
        exact ⟨y, by simp [hxp, hxt, hy], .inl hSy⟩
      obtain ⟨q', hq', hSq'⟩ := hS' q (.inl hq)
      refine ⟨_, q, p', q', P, fun x => S x ∨ x = p, ?_, ⟨hS', .inl hq, hSq', ?_, ?_, ?_, ?_⟩, .inl hnew⟩
      · rw [hq']; simp [hpt, hp]
      · have htP : t ∉ p' :: P := fun hm => hout t (List.mem_cons_of_mem p hm) ht
        have hpP : p ∉ p' :: P := (List.nodup_cons.mp hnd).1
        exact IsList.update (hP'.update htP) hpP
      · rintro x hx (hSx | rfl)
        · exact hout x (List.mem_cons_of_mem p hx) hSx
        · exact (List.nodup_cons.mp hnd).1 hx
      · rintro y (hSy | rfl) x hx
        · exact hle y hSy x (List.mem_cons_of_mem p hx)
        · exact List.rel_of_pairwise_cons hsort hx
      · exact (List.pairwise_cons.mp hsort).2
  · rw [mergeTurn_greater hlt] at hb
    cases hb
    have hS' : Endless (h.link t (some q)).next S := hS.update hq
    obtain ⟨q', hq', hSq'⟩ := hS' q hq
    have htP : t ∉ p :: P := fun hm => hout t hm ht
    exact ⟨_, q, p, q', P, S, by rw [hq'], ⟨hS', hq, hSq', hP.update htP, hout, hle, hsort⟩, hnew⟩

theorem CirclingState.not_merged {new : Addr} {xs ys : List Addr} {fuel : Nat} {s r : Merge} {heap : Heap}
    (hs : CirclingState new s) (hr : whileLoop mergeMore mergeTurn fuel s = .ok r)
    (hh : mergeRest r = .ok heap) : ¬ Merged xs ys (heap, some new) := by
  obtain ⟨⟨h, t, p, q, P, S, rfl, hC, hnew⟩, -⟩ := whileLoop_ok (fun s s' => CirclingState.turn) hs hr
  rw [mergeRest_some] at hh
  cases hh
  rintro ⟨zs, hzs, -, -⟩
  exact (hC.endless.update hC.header2).not_isList hnew hzs

/-! ## Equal values: rounds -/

/-- The loop over a single node `a` and a list `b :: _` of its value `v`,
after at least one turn. `D` are the nodes hung behind `b`, up to the tail;
`P` those still to be hung in this round, from the first header, their last
leading back to the head of `D`; `R` the rest of the second list. A round
starts with `P` empty and its next turn turns `D` into `P`; `count` is the
number of nodes at the end of the round. -/
structure Tied (a b : Addr) (v : Int) (all : List Addr) (D P R : List Addr) (s : Merge) : Prop where
  temp : ∃ t, s.tempNode = some t ∧ D.getLast? = some t
  done : Path s.heap.next (some a) (a :: b :: D) s.header2
  ring : Path s.heap.next s.header1 P D.head?
  rest : IsList s.heap.next s.header2 R
  nodes : a :: b :: (D ++ P ++ R) ~ all
  ties : ∀ x ∈ D ++ P, s.heap.value x = v
  count : ∃ k, D.length + 2 * P.length = 2 ^ k

/-- A turn's first write, of the first header behind the tail, closes the
ring at the end of a round and lengthens the hung part within one. -/
theorem Tied.link {a b : Addr} {v : Int} {all D P R : List Addr} {s : Merge} (hs : Tied a b v all D P R s)
    (hnd : all.Nodup) : ∃ t p E Q, s.tempNode = some t ∧ s.header1 = some p ∧ E ++ p :: Q = D ++ P ∧
      t ∈ D ∧ Path (s.heap.link t (some p)).next (some a) (a :: b :: E) (some p) ∧
      Path (s.heap.link t (some p)).next (some p) (p :: Q) (E ++ p :: Q).head? ∧
      ∃ k, E.length + 2 + 2 * Q.length = 2 ^ k := by
  obtain ⟨⟨t, ht, hlast⟩, hdone, hring, hrest, hnodes, -, k, hk⟩ := hs
  obtain ⟨C, rfl⟩ := List.getLast?_eq_some_iff.mp hlast
  have hnd' := hnodes.nodup_iff.mpr hnd
  cases P with
  | nil =>
    obtain ⟨p, Q, hpQ⟩ : ∃ p Q, C ++ [t] = p :: Q := by cases C <;> simp
    have hp : s.header1 = some p := by simpa [hpQ] using hring
    have hab : Path s.heap.next (some a) [a, b] (s.heap.next b) := by
      obtain ⟨-, hb, -⟩ := path_cons.mp hdone
      simpa using hb
    have hD : Path s.heap.next (s.heap.next b) (C ++ [t]) s.header2 := (path_cons.mp (path_cons.mp hdone).2).2
    have hbp : s.heap.next b = some p := by
      have := hD.head
      simpa [hpQ] using this
    rw [hbp] at hab hD
    simp only [List.append_nil, List.nodup_cons, List.nodup_append, List.mem_append, List.mem_cons] at hnd'
    refine ⟨t, p, [], Q, ht, hp, by simp [hpQ], by simp, hab.update (by grind), ?_, k + 1, ?_⟩
    · have := (path_snoc.mp hD).1.update_last (r := some p) (x := t) (by grind)
      simpa [hpQ] using this
    · have := congrArg List.length hpQ
      simp at this hk ⊢
      omega
  | cons p Q =>
    have hp : s.header1 = some p := hring.1
    simp only [List.nodup_cons, List.nodup_append, List.mem_append, List.mem_cons] at hnd'
    have hdone' : Path s.heap.next (some a) ((a :: b :: C) ++ [t]) s.header2 := by simpa using hdone
    refine ⟨t, p, C ++ [t], Q, ht, hp, rfl, by simp, ?_, ?_, k, by simp at hk ⊢; omega⟩
    · have := (path_snoc.mp hdone').1.update_last (r := some p) (x := t) (by grind)
      simpa using this
    · have := hring.update (r := some p) (x := t) (by grind)
      simpa [hp] using this

/-- A turn on a node `r` of the common value hangs one passed node and `r`. -/
theorem Tied.turn {a b r r' : Addr} {v : Int} {all D P R : List Addr} {s : Merge}
    (hs : Tied a b v all D P (r :: r' :: R) s) (hnd : all.Nodup) (hr : s.heap.value r = v) :
    ∃ s' D' P', mergeTurn s = .ok s' ∧ Tied a b v all D' P' (r' :: R) s' ∧ s'.heap.value = s.heap.value := by
  obtain ⟨t, p, E, Q, ht, hp, hEQ, htD, hE, hQ, hcount⟩ := hs.link hnd
  obtain ⟨-, -, -, hrest, hnodes, hties, -⟩ := hs
  obtain ⟨h, header1, header2, temp⟩ := s
  dsimp only at ht hp hE hQ hrest hties hr
  subst ht hp
  obtain ⟨rfl, hr', hR⟩ : header2 = some r ∧ h.next r = some r' ∧ IsList h.next (h.next r') R := by
    simpa using hrest
  have hvp : h.value p = v := hties p (by rw [← hEQ]; simp)
  have htr : h.value p = h.value r := hvp.trans hr.symm
  have hnd' := hnodes.nodup_iff.mpr hnd
  rw [← hEQ] at hnd' hnodes hties
  have ht' : t ∈ E ++ p :: Q := hEQ ▸ List.mem_append_left _ htD
  simp only [List.nodup_cons, List.nodup_append, List.mem_append, List.mem_cons] at hnd' ht'
  have hrp : r ≠ p := by grind
  have hrt : r ≠ t := by grind
  refine ⟨_, E ++ [p, r], Q, mergeTurn_tie htr, ⟨⟨r, rfl, by simp⟩, ?_, ?_, ?_, ?_, ?_, ?_⟩, rfl⟩
  · have hEp := hE.update_last (r := some r) (x := p) (by grind)
    have : Path ((h.link t (some p)).link p (some r)).next (some a) ((a :: b :: E ++ [p]) ++ [r])
        (((h.link t (some p)).link p (some r)).next r) := path_snoc.mpr ⟨hEp, rfl⟩
    simpa using this
  · have hhead : (E ++ [p, r]).head? = (E ++ p :: Q).head? := by cases E <;> rfl
    rw [hhead]
    exact (path_cons.mp hQ).2.update (by grind)
  · have : IsList h.next (some r') (r' :: R) := by simpa using hR
    have hu := IsList.update (r := some r) (x := p) (this.update (r := some p) (x := t) (by grind)) (by grind)
    simpa [hrp, hrt, hr'] using hu
  · refine List.Perm.trans ?_ hnodes
    refine ((?_ : E ++ [p, r] ++ Q ++ r' :: R ~ E ++ p :: Q ++ r :: r' :: R).cons b).cons a
    simp only [List.append_assoc, List.cons_append, List.nil_append]
    exact (List.perm_middle.symm.cons p).append_left E
  · intro x hx
    simp only [List.mem_append, List.mem_cons, List.not_mem_nil, or_false] at hx
    rcases hx with (hx | rfl | rfl) | hx
    · exact hties x (by simp [hx])
    · exact hvp
    · exact hr
    · exact hties x (by simp [hx])
  · obtain ⟨k, hk⟩ := hcount
    exact ⟨k, by simpa using hk⟩

theorem Tied.more {a b r r' : Addr} {v : Int} {all D P R : List Addr} {s : Merge}
    (hs : Tied a b v all D P (r :: r' :: R) s) : mergeMore s = .ok true := by
  obtain ⟨⟨t, ht, hlast⟩, hdone, hring, hrest, -, -, -⟩ := hs
  obtain ⟨h, header1, header2, temp⟩ := s
  dsimp only at ht hdone hring hrest
  obtain ⟨rfl, hr', -⟩ : header2 = some r ∧ h.next r = some r' ∧ IsList h.next (h.next r') R := by
    simpa using hrest
  obtain ⟨c, hc⟩ : ∃ c, D.head? = some c := by cases D <;> simp at hlast ⊢
  have hcD : c ∈ D := List.mem_of_head? hc
  rw [hc] at hring
  obtain ⟨p, rfl, p', hp'⟩ : ∃ p, header1 = some p ∧ ∃ p', h.next p = some p' := by
    cases P with
    | nil =>
      refine ⟨c, hring, ?_⟩
      rcases hdone.next_mem (x := c) (by simp [hcD]) with ⟨y, -, hy⟩ | hy
      · exact ⟨y, hy⟩
      · exact ⟨r, hy⟩
    | cons p P =>
      refine ⟨p, hring.1, ?_⟩
      rcases hring.next_mem (x := p) (by simp) with ⟨y, -, hy⟩ | hy
      · exact ⟨y, hy⟩
      · exact ⟨c, hy⟩
  subst ht
  rw [mergeMore_some, hp', hr']
  rfl

/-- On the last node of the second list the loop is over, and what was hung
stands before that node. -/
theorem Tied.exit {a b y : Addr} {v : Int} {all D P : List Addr} {s : Merge}
    (hs : Tied a b v all D P [y] s) (hnd : all.Nodup) : mergeMore s = .ok false ∧
      ∃ heap, mergeRest s = .ok heap ∧ heap.value = s.heap.value ∧
        IsList heap.next (some a) (a :: b :: (D ++ [y])) := by
  obtain ⟨t, p, -, -, ht, hp, -⟩ := hs.link hnd
  obtain ⟨⟨t', ht', hlast⟩, hdone, -, hrest, hnodes, -, -⟩ := hs
  obtain rfl := Option.some.inj (ht.symm.trans ht')
  obtain ⟨C, rfl⟩ := List.getLast?_eq_some_iff.mp hlast
  obtain ⟨h, header1, header2, temp⟩ := s
  dsimp only at ht hp hdone hrest
  subst ht hp
  obtain ⟨rfl, hy⟩ : header2 = some y ∧ h.next y = none := by simpa using hrest
  have hnd' := hnodes.nodup_iff.mpr hnd
  simp only [List.nodup_cons, List.nodup_append, List.mem_append, List.mem_cons] at hnd'
  refine ⟨by rw [mergeMore_some, hy]; cases h.next p <;> rfl, _, mergeRest_some, rfl, ?_⟩
  have hdone' : Path h.next (some a) ((a :: b :: C) ++ [t]) (some y) := by simpa using hdone
  have hD := (path_snoc.mp hdone').1.update_last (r := some y) (x := t) (by grind)
  have hyt : y ≠ t := by grind
  have : IsList (h.link t (some y)).next (some a) (((a :: b :: C) ++ [t]) ++ [y]) :=
    path_snoc.mpr ⟨hD, by simp [hyt, hy]⟩
  simpa using this

/-- The first header goes round among smaller values for ever. -/
def Spinning (s : Merge) : Prop :=
  ∃ h t p r r' Z, s = ⟨h, some p, some r, some t⟩ ∧ Endless h.next Z ∧ Z t ∧ Z p ∧ ¬ Z r ∧
    h.next r = some r' ∧ ∀ z, Z z → h.value z < h.value r

theorem Spinning.more {s : Merge} (hs : Spinning s) : mergeMore s = .ok true := by
  obtain ⟨h, t, p, r, r', Z, rfl, hZ, -, hp, -, hr, -⟩ := hs
  obtain ⟨p', hp', -⟩ := hZ p hp
  rw [mergeMore_some, hp', hr]
  rfl

theorem Spinning.turn {s s' : Merge} (hs : Spinning s) (hb : mergeTurn s = .ok s') : Spinning s' := by
  obtain ⟨h, t, p, r, r', Z, rfl, hZ, ht, hp, hr, hr', hlt⟩ := hs
  rw [mergeTurn_less (hlt p hp)] at hb
  cases hb
  have hZ' : Endless (h.link t (some p)).next Z := hZ.update hp
  obtain ⟨p', hp', hZp'⟩ := hZ' p hp
  have hrt : r ≠ t := fun he => hr (he ▸ ht)
  exact ⟨_, p, p', r, r', Z, by rw [hp'], hZ', hp, hZp', hr, by simp [hrt, hr'], hlt⟩

/-- A turn on a greater node of the second list, not its last, starts the
round that never ends. -/
theorem Tied.spin {a b r r' : Addr} {v : Int} {all D P R : List Addr} {s s' : Merge}
    (hs : Tied a b v all D P (r :: r' :: R) s) (hnd : all.Nodup) (hr : v < s.heap.value r)
    (hb : mergeTurn s = .ok s') : Spinning s' := by
  obtain ⟨t, p, E, Q, ht, hp, hEQ, htD, hE, hQ, -⟩ := hs.link hnd
  obtain ⟨-, -, -, hrest, hnodes, hties, -⟩ := hs
  obtain ⟨h, header1, header2, temp⟩ := s
  dsimp only at ht hp hE hQ hrest hties hr
  subst ht hp
  obtain ⟨rfl, hr', -⟩ : header2 = some r ∧ h.next r = some r' ∧ IsList h.next (h.next r') R := by
    simpa using hrest
  have hvp : h.value p = v := hties p (by rw [← hEQ]; simp)
  rw [mergeTurn_less (by omega)] at hb
  cases hb
  have hnd' := hnodes.nodup_iff.mpr hnd
  rw [← hEQ] at hnd' hties
  have ht' : t ∈ E ++ p :: Q := hEQ ▸ List.mem_append_left _ htD
  obtain ⟨c, hc⟩ : ∃ c, (E ++ p :: Q).head? = some c := by cases E <;> simp
  rw [hc] at hQ
  have hZ : Endless (h.link t (some p)).next (· ∈ E ++ p :: Q) := by
    intro x hx
    rcases List.mem_append.mp hx with hxE | hxQ
    · rcases (path_cons.mp (path_cons.mp hE).2).2.next_mem hxE with ⟨y, hy, he⟩ | he
      · exact ⟨y, he, List.mem_append_left _ hy⟩
      · exact ⟨p, he, by simp⟩
    · rcases hQ.next_mem hxQ with ⟨y, hy, he⟩ | he
      · exact ⟨y, he, List.mem_append_right _ hy⟩
      · exact ⟨c, he, List.mem_of_head? hc⟩
  obtain ⟨p', hp', hZp'⟩ := hZ p (by simp)
  simp only [List.nodup_cons, List.nodup_append, List.mem_append, List.mem_cons] at hnd' ht'
  have hrt : r ≠ t := by grind
  refine ⟨_, p, p', r, r', (· ∈ E ++ p :: Q), by rw [hp'], hZ, by simp, hZp', ?_, by simp [hrt, hr'], ?_⟩
  · simp only [List.mem_append, List.mem_cons]
    grind
  · intro z hz
    show h.value z < h.value r
    rw [hties z hz]
    exact hr

/-- A greater node before the last one of the rest: the loop never returns. -/
theorem Tied.forever {a b : Addr} {v : Int} {all D P R : List Addr} {s r : Merge} {fuel : Nat}
    (hs : Tied a b v all D P R s) (hnd : all.Nodup) (hle : ∀ x ∈ R, v ≤ s.heap.value x)
    (hgt : ∃ x ∈ R.dropLast, s.heap.value x ≠ v) : whileLoop mergeMore mergeTurn fuel s ≠ .ok r := by
  have hI : Spinning s ∨ ∃ D P R, Tied a b v all D P R s ∧ (∀ x ∈ R, v ≤ s.heap.value x) ∧
      ∃ x ∈ R.dropLast, s.heap.value x ≠ v := .inr ⟨D, P, R, hs, hle, hgt⟩
  refine whileLoop_forever (I := fun s => Spinning s ∨ ∃ D P R, Tied a b v all D P R s ∧
    (∀ x ∈ R, v ≤ s.heap.value x) ∧ ∃ x ∈ R.dropLast, s.heap.value x ≠ v) ?_ ?_ hI
  · rintro s (hs | ⟨D, P, _ | ⟨r, _ | ⟨r', R⟩⟩, hs, -, x, hx, -⟩)
    · exact hs.more
    · simp at hx
    · simp at hx
    · exact hs.more
  · rintro s s' (hs | ⟨D, P, _ | ⟨r, _ | ⟨r', R⟩⟩, hs, hle, x, hx, hne⟩) hb
    · exact .inl (hs.turn hb)
    · simp at hx
    · simp at hx
    · by_cases hr : s.heap.value r = v
      · obtain ⟨s₂, D', P', hb', hs', hv⟩ := hs.turn hnd hr
        obtain rfl := Except.ok.inj (hb.symm.trans hb')
        refine .inr ⟨D', P', r' :: R, hs', fun x hx => ?_, x, ?_, by rwa [hv]⟩
        · rw [hv]; exact hle x (List.mem_cons_of_mem r hx)
        · rcases List.mem_cons.mp (by simpa using hx : x ∈ r :: (r' :: R).dropLast) with rfl | hx
          · exact absurd hr hne
          · exact hx
      · have := hle r (by simp)
        exact .inl (hs.spin hnd (by omega) hb)

/-- Equal values up to the last node: the loop ends on that node, in some
place of a round. -/
theorem Tied.run {a b y : Addr} {v : Int} {all D P R : List Addr} {s : Merge} {fuel : Nat}
    (hs : Tied a b v all D P (R ++ [y]) s) (hnd : all.Nodup) (hties : ∀ x ∈ R, s.heap.value x = v)
    (hfuel : R.length < fuel) : ∃ r D P, whileLoop mergeMore mergeTurn fuel s = .ok r ∧
      Tied a b v all D P [y] r ∧ r.heap.value = s.heap.value := by
  obtain ⟨r, hr, ⟨j, D', P', R', hs', hv, hlen, hties'⟩, hf⟩ := whileLoop_returns
    (I := fun k s' => ∃ D P R, Tied a b v all D P (R ++ [y]) s' ∧ s'.heap.value = s.heap.value ∧
      R.length = k ∧ ∀ x ∈ R, s.heap.value x = v)
    (fun k s' hI => by
      obtain ⟨D, P, R, hs', hv, rfl, hties⟩ := hI
      cases R with
      | nil => exact .inl (hs'.exit hnd).1
      | cons r R =>
        obtain ⟨r', R', hR⟩ : ∃ r' R', R ++ [y] = r' :: R' := by cases R <;> simp
        rw [List.cons_append, hR] at hs'
        obtain ⟨s₂, D', P', hb, hs₂, hv₂⟩ := hs'.turn hnd (by rw [hv]; exact hties r (by simp))
        rw [← hR] at hs₂
        exact .inr ⟨hs'.more, s₂, R.length, hb,
          ⟨D', P', R, hs₂, hv₂.trans hv, rfl, fun x hx => hties x (List.mem_cons_of_mem r hx)⟩, by simp⟩)
    ⟨D, P, R, hs, rfl, rfl, hties⟩ hfuel
  refine ⟨r, D', P', hr, ?_, hv⟩
  cases R' with
  | nil => exact hs'
  | cons r' R' =>
    obtain ⟨r₂, R₂, hR⟩ : ∃ r₂ R₂, R' ++ [y] = r₂ :: R₂ := by cases R' <;> simp
    rw [List.cons_append, hR] at hs'
    rw [hs'.more] at hf
    cases hf

/-- Within a round the number of nodes is no power of two. -/
theorem not_two_pow {d p k j : Nat} (h : d + 2 * p = 2 ^ k) (hd : 0 < d) (hp : 0 < p) : d + p ≠ 2 ^ j := by
  intro hj
  have h1 : j < k := (Nat.pow_lt_pow_iff_right (by decide : 1 < 2)).mp (by omega)
  have h2 : 2 ^ (j + 1) ≤ 2 ^ k := Nat.pow_le_pow_right (by decide) h1
  rw [Nat.pow_succ] at h2
  omega

/-! ## The four kinds of heads -/

section Heads

variable {h : Heap} {a b : Addr} {xs ys : List Addr}

theorem merges_less (hx : IsList h.next (some a) (a :: xs)) (hy : IsList h.next (some b) (b :: ys))
    (hnd : (a :: xs ++ b :: ys).Nodup) (hlt : h.value a < h.value b) :
    ¬ Merges h (some a) (some b) (a :: xs) (b :: ys) := by
  intro hm
  have hf : mergeFirst h (some a) (some b) = .ok ⟨h, h.next a, some b, some a⟩ := by simp [mergeFirst, hlt]
  obtain ⟨fuel, s, heap, hs, hh, hmerged⟩ := hm.run hf
  obtain ⟨-, hx'⟩ := isList_cons.mp hx
  cases xs with
  | nil =>
    rw [isList_nil.mp hx'] at hs
    cases fuel with
    | zero => cases hs
    | succ n => simp [whileLoop, mergeMore] at hs
  | cons p P =>
    have hp : h.next a = some p := (isList_cons.mp hx').1
    rw [hp] at hs hx'
    have hA : ApartState a (a :: p :: P ++ b :: ys) ⟨h, some p, some b, some a⟩ :=
      ⟨h, a, p, b, [], P, ys, rfl, ⟨by simp, hx', hy, by simpa using hnd⟩, fun x hx => by simp at hx ⊢; tauto⟩
    exact hA.not_merged hs hh hmerged

theorem merges_greater (hx : IsList h.next (some a) (a :: xs)) (hy : IsList h.next (some b) (b :: ys))
    (hnd : (a :: xs ++ b :: ys).Nodup) (hlt : h.value b < h.value a) :
    Merges h (some a) (some b) (a :: xs) (b :: ys) ↔ xs = [] ∧ ys = [] := by
  have hf : mergeFirst h (some a) (some b) = .ok ⟨h, some a, h.next b, some b⟩ := by
    simp [mergeFirst, hlt, Int.not_lt.mpr (Int.le_of_lt hlt)]
  obtain ⟨-, hx'⟩ := isList_cons.mp hx
  obtain ⟨-, hy'⟩ := isList_cons.mp hy
  constructor
  · intro hm
    obtain ⟨fuel, s, heap, hs, hh, hmerged⟩ := hm.run hf
    cases ys with
    | nil =>
      refine ⟨?_, rfl⟩
      cases xs with
      | nil => rfl
      | cons p P =>
        have hp : h.next a = some p := (isList_cons.mp hx').1
        rw [isList_nil.mp hy'] at hs
        cases fuel with
        | zero => cases hs
        | succ n => simp [whileLoop, mergeMore, hp] at hs
    | cons q Q =>
      have hq : h.next b = some q := (isList_cons.mp hy').1
      rw [hq] at hs hy'
      have hnd' : ([] ++ b :: (a :: xs ++ q :: Q)).Nodup := (List.perm_middle.nodup_iff).mp hnd
      have hA : ApartState b (a :: xs ++ b :: q :: Q) ⟨h, some a, some q, some b⟩ :=
        ⟨h, b, a, q, [], xs, Q, rfl, ⟨by simp, hx, hy', hnd'⟩, fun x hx => by simp at hx ⊢; tauto⟩
      exact absurd hmerged (hA.not_merged hs hh)
  · rintro ⟨rfl, rfl⟩
    have hna : h.next a = none := hx'
    have hnb : h.next b = none := hy'
    have hab : a ≠ b := by simpa using hnd
    refine ⟨1, fun fuel hfuel => ⟨(h.link b (some a), some b), ?_, [b, a], ?_, ?_, ?_⟩⟩
    · obtain ⟨n, rfl⟩ : ∃ n, fuel = n + 1 := ⟨fuel - 1, by omega⟩
      have hstop : mergeMore ⟨h, some a, h.next b, some b⟩ = .ok false := by simp [mergeMore, hna]
      simp only [mergeTwoSortList, reduceCtorEq, if_false, hf, ok_bind, whileLoop_stop hstop]
      simp [mergeRest, hnb]
    · simp [hab, hna]
    · simpa using Int.le_of_lt hlt
    · exact List.Perm.swap a b []

theorem mergeFirst_tie (heq : h.value a = h.value b) : mergeFirst h (some a) (some b) =
    .ok ⟨h.link a (some b), (h.link a (some b)).next a, (h.link a (some b)).next b, some a⟩ := by
  simp [mergeFirst, heq]

theorem merges_tie_longer (hy : IsList h.next (some b) (b :: ys)) (hnd : (a :: xs ++ b :: ys).Nodup)
    (heq : h.value a = h.value b) (hxs : xs ≠ []) :
    ¬ Merges h (some a) (some b) (a :: xs) (b :: ys) := by
  intro hm
  obtain ⟨fuel, s, heap, hs, hh, hmerged⟩ := hm.run (mergeFirst_tie heq)
  obtain ⟨x, hxmem⟩ := List.exists_mem_of_ne_nil xs hxs
  simp only [List.nodup_append, List.nodup_cons, List.mem_cons] at hnd
  have hyK : Confined h.next (· ∈ b :: ys) := by
    intro y hmem z hz
    rcases Path.next_mem hy hmem with ⟨w, hw, he⟩ | he
    · exact Option.some.inj (hz.symm.trans he) ▸ hw
    · rw [hz] at he; cases he
  have hK : Confined (h.link a (some b)).next (fun y => y = a ∨ y ∈ b :: ys) := by
    intro y hy z hz
    by_cases hya : y = a
    · simp only [hya, Heap.link_next, Function.update_self, Option.some.injEq] at hz
      exact .inr (by simp [← hz])
    · simp only [Heap.link_next, Function.update_of_ne hya] at hz
      exact .inr (hyK y (hy.resolve_left hya) z hz)
  have hW : Within (fun y => y = a ∨ y ∈ b :: ys)
      ⟨h.link a (some b), (h.link a (some b)).next a, (h.link a (some b)).next b, some a⟩ :=
    ⟨hK, fun y hy => hK a (.inl rfl) y hy, fun y hy => hK b (.inr (by simp)) y hy, a, rfl, .inl rfl⟩
  refine hW.not_merged (x := x) hs hh (.inl rfl) (by simp [hxmem]) ?_ hmerged
  simp only [List.mem_cons]
  grind

theorem mergeFirst_single {c : Addr} (hy : IsList h.next (some b) (b :: c :: ys)) (hab : a ≠ b)
    (heq : h.value a = h.value b) : mergeFirst h (some a) (some b) =
      .ok ⟨h.link a (some b), some b, some c, some a⟩ := by
  have hc : h.next b = some c := (isList_cons.mp (isList_cons.mp hy).2).1
  rw [mergeFirst_tie heq]
  simp [hab.symm, hc]

theorem tied_start {c r : Addr} (hy : IsList h.next (some b) (b :: c :: r :: ys))
    (hnd : (a :: b :: c :: r :: ys).Nodup) (heq : h.value a = h.value b) (hbc : h.value b = h.value c) :
    ∃ s, mergeMore ⟨h.link a (some b), some b, some c, some a⟩ = .ok true ∧
      mergeTurn ⟨h.link a (some b), some b, some c, some a⟩ = .ok s ∧ s.heap.value = h.value ∧
      Tied a b (h.value a) (a :: b :: c :: r :: ys) [c] [] (r :: ys) s := by
  obtain ⟨hc, hr, hys⟩ : h.next b = some c ∧ h.next c = some r ∧ IsList h.next (h.next r) ys := by
    simpa using hy
  have hnd' := hnd
  simp only [List.nodup_cons, List.mem_cons, not_or] at hnd'
  obtain ⟨⟨hab, hac, har, haY⟩, ⟨hbc', hbr, hbY⟩, ⟨hcr, hcY⟩, -⟩ := hnd'
  refine ⟨_, ?_, mergeTurn_tie hbc, rfl, ⟨c, rfl, rfl⟩, ?_, ?_, ?_, List.Perm.refl _, ?_, 0, rfl⟩
  · rw [mergeMore_some]
    simp [Ne.symm hab, Ne.symm hac, hc, hr]
  · simp [hab, Ne.symm hac, Ne.symm hbc', hr]
  · simp [Ne.symm hab, hc]
  · have hR : IsList h.next (some r) (r :: ys) := by simpa using hys
    have hu := IsList.update (r := some c) (x := b) (IsList.update (r := some b) (x := a)
      (hR.update (r := some b) (x := a) (by simp [har, haY])) (by simp [har, haY])) (by simp [hbr, hbY])
    simpa [Ne.symm hac, Ne.symm hbc', hr] using hu
  · simp [heq, hbc]

/-- When the second list rises at its second node, the first two turns
close a circle on that node. -/
theorem circling_start {c r : Addr} (hy : IsList h.next (some b) (b :: c :: r :: ys))
    (hnd : (a :: b :: c :: r :: ys).Nodup) (heq : h.value a = h.value b)
    (hsort : (b :: c :: r :: ys).Pairwise (h.value · ≤ h.value ·)) (hbc : h.value b < h.value c)
    {fuel : Nat} {res : Merge}
    (hr : whileLoop mergeMore mergeTurn fuel ⟨h.link a (some b), some b, some c, some a⟩ = .ok res) :
    ∃ n s, CirclingState a s ∧ whileLoop mergeMore mergeTurn n s = .ok res := by
  obtain ⟨hc, hr', hys⟩ : h.next b = some c ∧ h.next c = some r ∧ IsList h.next (h.next r) ys := by
    simpa using hy
  simp only [List.nodup_cons, List.mem_cons, not_or] at hnd
  obtain ⟨⟨hab, hac, har, haY⟩, ⟨hbc', hbr, hbY⟩, ⟨hcr, hcY⟩, -⟩ := hnd
  have hm₁ : mergeMore ⟨h.link a (some b), some b, some c, some a⟩ = .ok true := by
    rw [mergeMore_some]; simp [Ne.symm hab, Ne.symm hac, hc, hr']
  have ht₁ := mergeTurn_less (h := h.link a (some b)) (p := b) (q := c) (t := a) hbc
  have hb' : ((h.link a (some b)).link a (some b)).next b = some c := by simp [Ne.symm hab, hc]
  rw [hb'] at ht₁
  obtain ⟨m, hm⟩ := whileLoop_rest hm₁ ht₁ hr
  have hm₂ : mergeMore ⟨(h.link a (some b)).link a (some b), some c, some c, some b⟩ = .ok true := by
    rw [mergeMore_some]; simp [Ne.symm hac, hr']
  have ht₂ := mergeTurn_tie (h := (h.link a (some b)).link a (some b)) (p := c) (q := c) (t := b) rfl
  obtain ⟨n, hn⟩ := whileLoop_rest hm₂ ht₂ hm
  refine ⟨n, _, ⟨(((h.link a (some b)).link a (some b)).link b (some c)).link c (some c), c, r, c, ys,
    (· ∈ [a, b, c]), ?_, ⟨?_, by simp, by simp, ?_, ?_, ?_, ?_⟩, by simp⟩, hn⟩
  · simp [Ne.symm hac, Ne.symm hbc', hr']
  · intro x hx
    simp only [List.mem_cons, List.not_mem_nil, or_false] at hx
    rcases hx with rfl | rfl | rfl
    · exact ⟨b, by simp [hab, hac], by simp⟩
    · exact ⟨c, by simp [hbc'], by simp⟩
    · exact ⟨x, by simp, by simp⟩
  · have hR : IsList h.next (some r) (r :: ys) := by simpa using hys
    exact IsList.update (IsList.update (IsList.update (hR.update (by simp [har, haY])) (by simp [har, haY]))
      (by simp [hbr, hbY])) (by simp [hcr, hcY])
  · intro x hx hm
    simp only [List.mem_cons, List.not_mem_nil, or_false] at hx hm
    rcases hm with rfl | rfl | rfl <;> rcases hx with hx | hx <;> simp_all
  · intro y hy x hx
    have hcx : h.value c ≤ h.value x := List.rel_of_pairwise_cons (List.pairwise_cons.mp hsort).2 hx
    simp only [List.mem_cons, List.not_mem_nil, or_false] at hy
    show h.value y ≤ h.value x
    rcases hy with rfl | rfl | rfl <;> omega
  · exact (List.pairwise_cons.mp (List.pairwise_cons.mp hsort).2).2

/-- Equal values up to the last node: the merge succeeds at the end of a round. -/
theorem Tied.merges_iff {c y : Addr} {all R : List Addr} {s : Merge}
    (hf : mergeFirst h (some a) (some b) = .ok ⟨h.link a (some b), some b, some c, some a⟩)
    (hmore : mergeMore ⟨h.link a (some b), some b, some c, some a⟩ = .ok true)
    (hturn : mergeTurn ⟨h.link a (some b), some b, some c, some a⟩ = .ok s) (hval : s.heap.value = h.value)
    (hT : Tied a b (h.value a) (a :: all) [c] [] (R ++ [y]) s) (hnd : (a :: all).Nodup)
    (hties : ∀ x ∈ R, s.heap.value x = h.value a) (hb : h.value b = h.value a) (hy : h.value a ≤ h.value y) :
    Merges h (some a) (some b) [a] all ↔ ∃ k, all.length = 2 ^ k + 2 := by
  have hrun : ∀ n, R.length < n → ∃ D P heap,
      mergeTwoSortList (n + 1) h (some a) (some b) = .ok (heap, some a) ∧ heap.value = h.value ∧
      IsList heap.next (some a) (a :: b :: (D ++ [y])) ∧ a :: b :: (D ++ P ++ [y]) ~ a :: all ∧
      (∀ x ∈ D, h.value x = h.value a) ∧ 0 < D.length ∧ ∃ k, D.length + 2 * P.length = 2 ^ k := by
    intro n hn
    obtain ⟨res, D, P, hres, hT', hv⟩ := hT.run hnd hties hn
    obtain ⟨-, heap, hheap, hv', hlist⟩ := hT'.exit hnd
    obtain ⟨t, -, hlast⟩ := hT'.temp
    refine ⟨D, P, heap, ?_, hv'.trans (hv.trans hval), hlist, hT'.nodes, fun x hx => ?_, ?_, hT'.count⟩
    · simp only [mergeTwoSortList, reduceCtorEq, if_false, hf, ok_bind, whileLoop_turn hmore hturn, hres,
        hheap, pure_ok]
    · have := hT'.ties x (List.mem_append_left P hx)
      rwa [hv, hval] at this
    · exact List.length_pos_of_ne_nil (fun h0 => by simp [h0] at hlast)
  constructor
  · rintro ⟨n, hn⟩
    obtain ⟨⟨heap, ret⟩, hr, zs, hzs, -, hperm⟩ := hn (n + R.length + 2) (by omega)
    obtain ⟨D, P, heap', hr', -, hlist, hnodes, -, -, k, hk⟩ := hrun (n + R.length + 1) (by omega)
    obtain ⟨rfl, rfl⟩ := Prod.mk.inj (Except.ok.inj (hr.symm.trans hr'))
    obtain rfl := hzs.unique hlist
    have h1 := hperm.length_eq
    have h2 := hnodes.length_eq
    simp only [List.length_cons, List.length_append, List.length_nil] at h1 h2
    exact ⟨k, by omega⟩
  · rintro ⟨k, hlen⟩
    refine ⟨R.length + 2, fun fuel hfuel => ?_⟩
    obtain ⟨n, rfl⟩ : ∃ n, fuel = n + 1 := ⟨fuel - 1, by omega⟩
    obtain ⟨D, P, heap, hr, hv, hlist, hnodes, hD, hpos, j, hj⟩ := hrun n (by omega)
    have h2 := hnodes.length_eq
    simp only [List.length_cons, List.length_append, List.length_nil] at h2
    have hP : P = [] := by
      by_contra h0
      exact not_two_pow hj hpos (List.length_pos_of_ne_nil h0) (j := k) (by omega)
    subst hP
    refine ⟨_, hr, a :: b :: (D ++ [y]), hlist, ?_, by simpa using hnodes⟩
    show (a :: b :: (D ++ [y])).Pairwise (heap.value · ≤ heap.value ·)
    rw [hv]
    have hall : ∀ x ∈ a :: b :: D, h.value x = h.value a := by
      intro x hx
      rcases List.mem_cons.mp hx with rfl | hx
      · rfl
      · rcases List.mem_cons.mp hx with rfl | hx
        · exact hb
        · exact hD x hx
    have hsort : ((a :: b :: D) ++ [y]).Pairwise (h.value · ≤ h.value ·) := by
      refine List.pairwise_append.mpr ⟨?_, by simp, ?_⟩
      · refine List.pairwise_of_forall_mem_list fun x hx z hz => ?_
        exact Int.le_of_eq ((hall x hx).trans (hall z hz).symm)
      · intro x hx z hz
        rw [List.mem_singleton.mp hz, hall x hx]
        exact hy
    simpa using hsort

theorem merges_tie_single (hnb : h.next b = none) (hab : a ≠ b) (heq : h.value a = h.value b) :
    Merges h (some a) (some b) [a] [b] := by
  refine ⟨1, fun fuel hfuel => ?_⟩
  obtain ⟨n, rfl⟩ : ∃ n, fuel = n + 1 := ⟨fuel - 1, by omega⟩
  have hf := mergeFirst_tie (h := h) (a := a) (b := b) heq
  have hnb' : (h.link a (some b)).next b = none := by simp [hab.symm, hnb]
  have hna' : (h.link a (some b)).next a = some b := by simp
  rw [hna', hnb'] at hf
  have hstop : mergeMore ⟨h.link a (some b), some b, none, some a⟩ = .ok false := by
    simp [mergeMore, hab.symm, hnb]
  refine ⟨((h.link a (some b)).link a (some b), some a), ?_, [a, b], ?_, ?_, List.Perm.refl _⟩
  · simp only [mergeTwoSortList, reduceCtorEq, if_false, hf, ok_bind, whileLoop_stop hstop]
    simp [mergeRest]
  · simp [hab.symm, hnb]
  · simp [heq]

theorem not_merges_tie_pair {c : Addr} (hy : IsList h.next (some b) [b, c]) (hnd : [a, b, c].Nodup)
    (heq : h.value a = h.value b) : ¬ Merges h (some a) (some b) [a] [b, c] := by
  intro hm
  simp only [List.nodup_cons, List.mem_cons, List.not_mem_nil, or_false, not_or] at hnd
  obtain ⟨⟨hab, hac⟩, hbc, -⟩ := hnd
  obtain ⟨fuel, s, heap, hs, hh, zs, hzs, -, hperm⟩ := hm.run (mergeFirst_single hy hab heq)
  obtain ⟨hc, hnc⟩ : h.next b = some c ∧ h.next c = none := by simpa using hy
  have hstop : mergeMore ⟨h.link a (some b), some b, some c, some a⟩ = .ok false := by
    rw [mergeMore_some]; simp [Ne.symm hac, hnc]
  cases fuel with
  | zero => cases hs
  | succ n =>
    rw [whileLoop_stop hstop] at hs
    cases hs
    rw [mergeRest_some] at hh
    obtain rfl := Except.ok.inj hh
    have hlist : IsList ((h.link a (some b)).link a (some c)).next (some a) [a, c] := by
      simp [Ne.symm hac, hnc]
    have hb : b ∈ [a, c] := (hzs.unique hlist) ▸ hperm.mem_iff.mpr (by simp)
    simp only [List.mem_cons, List.not_mem_nil, or_false] at hb
    rcases hb with rfl | rfl
    · exact hab rfl
    · exact hbc rfl

theorem not_merges_tie_rising {c r : Addr} {all : List Addr} (hy : IsList h.next (some b) (b :: c :: r :: ys))
    (hnd : (a :: b :: c :: r :: ys).Nodup) (hsort : (b :: c :: r :: ys).Pairwise (h.value · ≤ h.value ·))
    (heq : h.value a = h.value b) (hbc : h.value b < h.value c) : ¬ Merges h (some a) (some b) [a] all := by
  intro hm
  have hab : a ≠ b := fun he => (List.nodup_cons.mp hnd).1 (by simp [he])
  obtain ⟨fuel, s, heap, hs, hh, hmerged⟩ := hm.run (mergeFirst_single hy hab heq)
  obtain ⟨n, s', hC, hs'⟩ := circling_start hy hnd heq hsort hbc hs
  exact hC.not_merged hs' hh hmerged

/-- Before a list whose first two nodes have the common value, the rest of
it decides: all but its last node must have that value too. -/
theorem merges_tie_level {c r : Addr} (hy : IsList h.next (some b) (b :: c :: r :: ys))
    (hnd : (a :: b :: c :: r :: ys).Nodup) (hle : ∀ x ∈ c :: r :: ys, h.value b ≤ h.value x)
    (heq : h.value a = h.value b) (hbc : h.value b = h.value c) :
    Merges h (some a) (some b) [a] (b :: c :: r :: ys) ↔ (∃ k, (b :: c :: r :: ys).length = 2 ^ k + 2) ∧
      ∀ x ∈ (b :: c :: r :: ys).dropLast, h.value x = h.value a := by
  have hab : a ≠ b := fun he => (List.nodup_cons.mp hnd).1 (by simp [he])
  obtain ⟨s, hmore, hturn, hval, hT⟩ := tied_start hy hnd heq hbc
  obtain ⟨R, y, hRy⟩ : ∃ R y, r :: ys = R ++ [y] := by
    rcases List.eq_nil_or_concat (r :: ys) with h0 | ⟨R, y, h1⟩
    · cases h0
    · exact ⟨R, y, by simpa using h1⟩
  rw [hRy] at hT hnd
  have hRle : ∀ x ∈ R ++ [y], h.value a ≤ h.value x := fun x hx => by
    rw [heq]; exact hle x (by rw [hRy]; exact List.mem_cons_of_mem c hx)
  have hdrop : (b :: c :: r :: ys).dropLast = b :: c :: R := by
    rw [hRy, ← List.cons_append, ← List.cons_append, List.dropLast_concat]
  have hf := mergeFirst_single hy hab heq
  by_cases hties : ∀ x ∈ R, s.heap.value x = h.value a
  · have hm := hT.merges_iff hf hmore hturn hval hnd hties heq.symm (hRle y (by simp))
    rw [← hRy] at hm
    rw [hm]
    refine ⟨fun hk => ⟨hk, fun x hx => ?_⟩, fun hk => hk.1⟩
    rw [hdrop] at hx
    rcases List.mem_cons.mp hx with rfl | hx
    · exact heq.symm
    · rcases List.mem_cons.mp hx with rfl | hx
      · exact (heq.trans hbc).symm
      · have := hties x hx
        rwa [hval] at this
  · refine iff_of_false (fun hm => ?_) (fun ⟨_, hall⟩ => hties fun x hx => ?_)
    · obtain ⟨fuel, s', heap, hs, -⟩ := hm.run hf
      obtain ⟨n, hn⟩ := whileLoop_rest hmore hturn hs
      refine hT.forever hnd (fun x hx => by rw [hval]; exact hRle x hx) ?_ hn
      simpa using hties
    · rw [hval]
      exact hall x (by rw [hdrop]; exact List.mem_cons_of_mem b (List.mem_cons_of_mem c hx))

/-- When a single node is merged with a list of the same first value. -/
theorem merges_tie (hy : IsList h.next (some b) (b :: ys)) (hnd : (a :: b :: ys).Nodup)
    (hsort : (b :: ys).Pairwise (h.value · ≤ h.value ·)) (heq : h.value a = h.value b) :
    Merges h (some a) (some b) [a] (b :: ys) ↔
      ys = [] ∨ ((∃ k, (b :: ys).length = 2 ^ k + 2) ∧ ∀ x ∈ (b :: ys).dropLast, h.value x = h.value a) := by
  rcases ys with _ | ⟨c, _ | ⟨r, ys⟩⟩
  · have hab : a ≠ b := by simpa using hnd
    exact iff_of_true (merges_tie_single (isList_cons.mp hy).2 hab heq) (.inl rfl)
  · exact iff_of_false (not_merges_tie_pair hy hnd heq) (by simp)
  · have hle : ∀ x ∈ c :: r :: ys, h.value b ≤ h.value x := fun x hx => List.rel_of_pairwise_cons hsort hx
    rcases Int.lt_or_eq_of_le (hle c (by simp)) with hbc | hbc
    · refine iff_of_false (not_merges_tie_rising hy hnd hsort heq hbc) ?_
      rintro (h0 | ⟨-, hties⟩)
      · cases h0
      · have := hties c (by simp)
        omega
    · rw [merges_tie_level hy hnd hle heq hbc]
      simp

end Heads

/-! ## When it merges -/

/-- The pairs of lists `mergeTwoSortList` merges: one is empty, or the first
is a single node, before a single node that is not greater or before
`2 ^ k + 2` nodes of its own value but for the last. -/
def MergeWorks (h : Heap) (xs ys : List Addr) : Prop :=
  xs = [] ∨ ys = [] ∨ ∃ a, xs = [a] ∧ ((∃ b, ys = [b] ∧ h.value b ≤ h.value a) ∨
    ((∃ k, ys.length = 2 ^ k + 2) ∧ ∀ x ∈ ys.dropLast, h.value x = h.value a))

theorem merges_nil_left {h : Heap} {q : Ptr} {ys : List Addr} (hy : IsList h.next q ys)
    (sy : ys.Pairwise (h.value · ≤ h.value ·)) : Merges h none q [] ys :=
  .of_ok (r := (h, q)) (fun fuel => by simp [mergeTwoSortList]) ⟨ys, hy, sy, List.Perm.refl ys⟩

theorem merges_nil_right {h : Heap} {p : Ptr} {xs : List Addr} (hx : IsList h.next p xs)
    (sx : xs.Pairwise (h.value · ≤ h.value ·)) : Merges h p none xs [] := by
  refine .of_ok (r := (h, p)) (fun fuel => ?_) ⟨xs, hx, sx, by simp⟩
  cases p <;> simp [mergeTwoSortList]

/-- **When `mergeTwoSortList` merges.** On disjoint acyclic nondecreasing
lists it returns, following no `NULL`, a nondecreasing list of exactly their
nodes exactly when `MergeWorks` holds of them. -/
theorem mergeTwoSortList_merges_iff {h : Heap} {header1 header2 : Ptr} {xs ys : List Addr}
    (hx : IsList h.next header1 xs) (hy : IsList h.next header2 ys) (hd : xs.Disjoint ys)
    (sx : xs.Pairwise (h.value · ≤ h.value ·)) (sy : ys.Pairwise (h.value · ≤ h.value ·)) :
    Merges h header1 header2 xs ys ↔ MergeWorks h xs ys := by
  rcases xs with _ | ⟨a, xs⟩
  · obtain rfl := isList_nil.mp hx
    exact iff_of_true (merges_nil_left hy sy) (.inl rfl)
  rcases ys with _ | ⟨b, ys⟩
  · obtain rfl := isList_nil.mp hy
    exact iff_of_true (merges_nil_right hx sx) (.inr (.inl rfl))
  obtain ⟨rfl, -⟩ := isList_cons.mp hx
  obtain ⟨rfl, -⟩ := isList_cons.mp hy
  have hnd : (a :: xs ++ b :: ys).Nodup := List.nodup_append'.mpr ⟨hx.nodup, hy.nodup, hd⟩
  have hfirst : ∀ {k : Nat}, (b :: ys).length = 2 ^ k + 2 → b ∈ (b :: ys).dropLast := by
    intro k hk
    cases ys with
    | nil => simp at hk
    | cons c ys => simp
  rcases Int.lt_trichotomy (h.value a) (h.value b) with hlt | heq | hlt
  · refine iff_of_false (merges_less hx hy hnd hlt) ?_
    rintro (h0 | h0 | ⟨a', ha, ⟨b', hb, hle⟩ | ⟨⟨k, hk⟩, hties⟩⟩)
    · cases h0
    · cases h0
    · cases ha; cases hb; omega
    · cases ha
      have := hties b (hfirst hk)
      omega
  · cases xs with
    | nil =>
      rw [merges_tie hy hnd sy heq]
      constructor
      · rintro (rfl | hk)
        · exact .inr (.inr ⟨a, rfl, .inl ⟨b, rfl, Int.le_of_eq heq.symm⟩⟩)
        · exact .inr (.inr ⟨a, rfl, .inr hk⟩)
      · rintro (h0 | h0 | ⟨a', ha, ⟨b', hb, -⟩ | hk⟩)
        · cases h0
        · cases h0
        · cases hb; exact .inl rfl
        · cases ha; exact .inr hk
    | cons x xs =>
      refine iff_of_false (merges_tie_longer hy hnd heq (by simp)) ?_
      rintro (h0 | h0 | ⟨a', ha, -⟩)
      · cases h0
      · cases h0
      · cases ha
  · rw [merges_greater hx hy hnd hlt]
    constructor
    · rintro ⟨rfl, rfl⟩
      exact .inr (.inr ⟨a, rfl, .inl ⟨b, rfl, Int.le_of_lt hlt⟩⟩)
    · rintro (h0 | h0 | ⟨a', ha, ⟨b', hb, -⟩ | ⟨⟨k, hk⟩, hties⟩⟩)
      · cases h0
      · cases h0
      · cases ha; cases hb; exact ⟨rfl, rfl⟩
      · cases ha
        have := hties b (hfirst hk)
        omega

theorem mergeTwoSortList_merges_round :
    Merges (.ofList [(4, none), (4, some 2), (4, some 3), (7, none)]) (some 0) (some 1) [0] [1, 2, 3] :=
  (mergeTwoSortList_merges_iff (by decide) (by decide) (by simp) (by decide) (by decide)).mpr
    (.inr (.inr ⟨0, rfl, .inr ⟨⟨0, rfl⟩, by decide⟩⟩))

/-- The lists of `_test_merge_sortList`, their last nodes ended. -/
def sampleLists : Heap := .ofList
  [(1, some 1), (2, some 2), (3, some 3), (6, some 4), (8, none),
   (3, some 6), (5, some 7), (7, some 8), (9, some 9), (10, none)]

theorem mergeTwoSortList_sample_loses :
    IsList sampleLists.next (some 0) [0, 1, 2, 3, 4] ∧ IsList sampleLists.next (some 5) [5, 6, 7, 8, 9] ∧
    [0, 1, 2, 3, 4].Disjoint [5, 6, 7, 8, 9] ∧
    [0, 1, 2, 3, 4].Pairwise (sampleLists.value · ≤ sampleLists.value ·) ∧
    [5, 6, 7, 8, 9].Pairwise (sampleLists.value · ≤ sampleLists.value ·) ∧
    ¬ Merges sampleLists (some 0) (some 5) [0, 1, 2, 3, 4] [5, 6, 7, 8, 9] :=
  ⟨by decide, by decide, by simp, by decide, by decide,
    merges_less (by decide) (by decide) (by decide) (by decide)⟩

end LearningDemo.LinkList
