/-
Which strings `strToInt` reads as numbers.

A string is blanks, at most one sign, blanks behind it, and a rest that is
none of these, in one way only (`exists_lead`, `Lead.unique`). The loop reads
it so; the grammar has no blanks behind the sign. The two differ where such
blanks stand in front of a number other than 0, and where the loop does not
come to the end of the number before its index overflows.
-/
import LearningDemo.StringToIntFacts
import Mathlib.Data.List.TakeWhile

namespace LearningDemo.StringToInt

open Imperative

variable {buf s t q q' D rest : List CChar} {sign sign' : Sign} {a a' b b' : Nat} {v : Int} {c : CChar}

/-- A numeral of the grammar and its number: blanks, at most one sign, and
digits directly behind it. -/
def Denotes (t : List CChar) (v : Int) : Prop :=
  ∃ a sign D, t = numeral a sign 0 D ∧ D ≠ [] ∧ (∀ c ∈ D, IsDigit c) ∧ v = sign.factor * decimal D

/-- What the grammar makes of a string: the number of its longest prefix that
is a numeral, in the range of `int`, or 0 when there is none. -/
def Atoi (s : List CChar) (n : Int) : Prop :=
  (∃ t v, t <+: s ∧ Denotes t v ∧ (∀ t' v', t' <+: s → Denotes t' v' → t'.length ≤ t.length) ∧ n = clamp v) ∨
  ((∀ t v, t <+: s → ¬ Denotes t v) ∧ n = 0)

/-- A sign, one or more blanks, and a number other than 0. -/
def SignApart (s : List CChar) : Prop :=
  ∃ a sign b D rest, sign ≠ .absent ∧ s = numeral a sign (b + 1) (D ++ rest) ∧ (∀ c ∈ D, IsDigit c) ∧
    (∀ c ∈ rest.head?, ¬ IsDigit c) ∧ decimal D ≠ 0

/-! ## The parts of a string -/

/-- The rest behind a sign and `b` blanks is none of these. -/
structure Lead (sign : Sign) (b : Nat) (q : List CChar) : Prop where
  blank : q.head? ≠ some (chr ' ')
  absent : sign = .absent → b = 0 ∧ q.head? ≠ some (chr '+') ∧ q.head? ≠ some (chr '-')

theorem replicate_append_inj {α : Type} {c : α} {x y : List α} (hx : x.head? ≠ some c) (hy : y.head? ≠ some c)
    (h : List.replicate a c ++ x = List.replicate b c ++ y) : a = b ∧ x = y := by
  induction a generalizing b with
  | zero =>
    cases b with
    | zero => exact ⟨rfl, h⟩
    | succ b => exact absurd (by rw [show x = _ from h]; rfl) hx
  | succ a ih =>
    cases b with
    | zero => exact absurd (by rw [← show _ = y from h]; rfl) hy
    | succ b =>
      obtain ⟨rfl, rfl⟩ := ih (List.cons.inj h).2
      exact ⟨rfl, rfl⟩

theorem exists_blanks (s : List CChar) :
    ∃ n q, s = List.replicate n (chr ' ') ++ q ∧ q.head? ≠ some (chr ' ') := by
  induction s with
  | nil => exact ⟨0, [], rfl, nofun⟩
  | cons c s ih =>
    by_cases hc : c = chr ' '
    · obtain ⟨n, q, rfl, hq⟩ := ih
      exact ⟨n + 1, q, by rw [hc]; rfl, hq⟩
    · exact ⟨0, c :: s, rfl, fun h => hc (Option.some.inj h)⟩

theorem exists_lead (s : List CChar) : ∃ a sign b q, s = numeral a sign b q ∧ Lead sign b q := by
  obtain ⟨a, x, rfl, hx⟩ := exists_blanks s
  by_cases hplus : x.head? = some (chr '+')
  · obtain ⟨y, rfl⟩ := List.head?_eq_some_iff.mp hplus
    obtain ⟨b, q, rfl, hq⟩ := exists_blanks y
    exact ⟨a, .plus, b, q, rfl, hq, nofun⟩
  · by_cases hminus : x.head? = some (chr '-')
    · obtain ⟨y, rfl⟩ := List.head?_eq_some_iff.mp hminus
      obtain ⟨b, q, rfl, hq⟩ := exists_blanks y
      exact ⟨a, .minus, b, q, rfl, hq, nofun⟩
    · exact ⟨a, .absent, 0, x, rfl, hx, fun _ => ⟨rfl, hplus, hminus⟩⟩

theorem exists_digits (q : List CChar) :
    ∃ D rest, q = D ++ rest ∧ (∀ c ∈ D, IsDigit c) ∧ ∀ c ∈ rest.head?, ¬ IsDigit c := by
  refine ⟨q.takeWhile (fun c => decide (IsDigit c)), q.dropWhile (fun c => decide (IsDigit c)),
    List.takeWhile_append_dropWhile.symm, fun c hc => ?_, fun c hc => ?_⟩
  · have hdigit := List.mem_takeWhile_imp hc
    simpa using hdigit
  · have hnot := List.head?_dropWhile_not (fun c => decide (IsDigit c)) q
    rw [Option.mem_def.mp hc] at hnot
    simpa using hnot

theorem Lead.text_head (h : Lead sign b q) :
    (sign.text ++ (List.replicate b (chr ' ') ++ q)).head? ≠ some (chr ' ') := by
  cases sign with
  | absent =>
    obtain ⟨rfl, -⟩ := h.absent rfl
    exact h.blank
  | plus => exact fun he => absurd (Option.some.inj he) (by decide)
  | minus => exact fun he => absurd (Option.some.inj he) (by decide)

/-- The sign a string starts with. -/
def signOf (x : List CChar) : Sign :=
  if x.head? = some (chr '+') then .plus else if x.head? = some (chr '-') then .minus else .absent

theorem Lead.signOf_eq (h : Lead sign b q) : signOf (sign.text ++ (List.replicate b (chr ' ') ++ q)) = sign := by
  cases sign with
  | absent =>
    obtain ⟨rfl, hplus, hminus⟩ := h.absent rfl
    exact (if_neg hplus).trans (if_neg hminus)
  | plus => exact if_pos rfl
  | minus => exact (if_neg (fun he => absurd (Option.some.inj he) (by decide))).trans (if_pos rfl)

theorem Lead.unique (h : Lead sign b q) (h' : Lead sign' b' q')
    (heq : numeral a sign b q = numeral a' sign' b' q') : a = a' ∧ sign = sign' ∧ b = b' ∧ q = q' := by
  obtain ⟨rfl, htext⟩ := replicate_append_inj h.text_head h'.text_head heq
  obtain rfl := h.signOf_eq.symm.trans ((congrArg signOf htext).trans h'.signOf_eq)
  obtain ⟨rfl, rfl⟩ := replicate_append_inj h.blank h'.blank (List.append_cancel_left htext)
  exact ⟨rfl, rfl, rfl, rfl⟩

/-! ## The numerals in front -/

theorem digit_ne (hc : IsDigit c) : c ≠ chr ' ' ∧ c ≠ chr '+' ∧ c ≠ chr '-' := by
  refine ⟨?_, ?_, ?_⟩ <;> rintro rfl <;> exact absurd hc (by decide)

theorem Lead.of_digits (hD : ∀ c ∈ D, IsDigit c) (hne : D ≠ []) (hb : sign = .absent → b = 0) :
    Lead sign b (D ++ rest) := by
  obtain ⟨c, D, rfl⟩ := List.exists_cons_of_ne_nil hne
  obtain ⟨hblank, hplus, hminus⟩ := digit_ne (hD c (by simp))
  exact ⟨fun h => hblank (Option.some.inj h), fun h => ⟨hb h, fun h => hplus (Option.some.inj h),
    fun h => hminus (Option.some.inj h)⟩⟩

theorem Lead.denotes (h : Lead sign b q) (ht : t <+: numeral a sign b q) (hv : Denotes t v) :
    b = 0 ∧ ∃ D r, q = D ++ r ∧ D ≠ [] ∧ (∀ c ∈ D, IsDigit c) ∧ t = numeral a sign 0 D := by
  obtain ⟨r, hr⟩ := ht
  obtain ⟨a', sign', D, rfl, hne, hD, -⟩ := hv
  have hsame : numeral a' sign' 0 (D ++ r) = numeral a sign b q := by
    rw [← hr]
    simp [numeral]
  obtain ⟨rfl, rfl, rfl, rfl⟩ := (Lead.of_digits hD hne fun _ => rfl).unique h hsame
  exact ⟨rfl, D, r, rfl, hne, hD, rfl⟩

theorem Lead.no_numeral (h : Lead sign b q) (hstop : b ≠ 0 ∨ ∀ c ∈ q.head?, ¬ IsDigit c) :
    ∀ t v, t <+: numeral a sign b q → ¬ Denotes t v := by
  intro t v ht hv
  obtain ⟨hb, D, r, rfl, hne, hD, -⟩ := h.denotes ht hv
  obtain ⟨c, D, rfl⟩ := List.exists_cons_of_ne_nil hne
  rcases hstop with hstop | hstop
  · exact hstop hb
  · exact hstop c rfl (hD c (by simp))

theorem digits_le {E r : List CChar} (hE : ∀ c ∈ E, IsDigit c) (hrest : ∀ c ∈ rest.head?, ¬ IsDigit c)
    (h : D ++ rest = E ++ r) : E.length ≤ D.length := by
  rcases List.append_eq_append_iff.mp h with ⟨x, rfl, rfl⟩ | ⟨x, rfl, -⟩
  · cases x with
    | nil => simp
    | cons c x => exact absurd (hE c (by simp)) (hrest c rfl)
  · simp

/-- The whole run of digits is the longest prefix. -/
theorem atoi_number (hne : D ≠ []) (hD : ∀ c ∈ D, IsDigit c) (hrest : ∀ c ∈ rest.head?, ¬ IsDigit c) :
    Atoi (numeral a sign 0 (D ++ rest)) (clamp (sign.factor * decimal D)) := by
  refine .inl ⟨numeral a sign 0 D, _, ⟨rest, by simp [numeral]⟩, ⟨a, sign, D, rfl, hne, hD, rfl⟩,
    fun t v ht hv => ?_, rfl⟩
  obtain ⟨-, E, r, heq, -, hE, rfl⟩ := (Lead.of_digits hD hne fun _ => rfl).denotes ht hv
  have := digits_le hE hrest heq
  simp [numeral]
  omega

/-! ## The result -/

theorem readTurn_stray {s : Reading} (hblank : s.c ≠ chr ' ')
    (hsign : s.c = chr '+' ∨ s.c = chr '-' → s.hasSign = true) (hc : ¬ IsDigit s.c) :
    readTurn buf s = .ok (.brk s) := by
  rw [readTurn, if_neg hblank]
  by_cases hs : s.c = chr '+' ∨ s.c = chr '-'
  · rw [if_pos hs, if_pos (.inr (hsign hs))]
    rfl
  · rw [if_neg hs, if_neg hc]
    rfl

theorem strToInt_no_digit (h : Stores buf (numeral a sign b q)) (hlead : Lead sign b q)
    (hq : ∀ c ∈ q.head?, ¬ IsDigit c) (hend : ¬ Overruns a sign b []) :
    Returns (fun fuel => strToInt fuel buf) (· = 0) := by
  refine ⟨1 + lead a sign b, fun fuel hfuel => ⟨_, ?_, rfl⟩⟩
  obtain ⟨n, rfl⟩ : ∃ n, fuel = n + 1 + lead a sign b := ⟨fuel - 1 - lead a sign b, by omega⟩
  have hroom : lead a sign b ≤ lastIndex := by
    by_contra hfar
    refine hend ⟨by rw [length_numeral]; omega, ?_⟩
    rw [List.take_nil]
    exact inner_nil _
  have hskip := lead_pass (n + 1) h hroom
  have hp : Stores buf (numeral a sign b [] ++ q) := by rwa [← numeral_append, List.nil_append]
  have hleft : loop readMore (readTurn buf) (n + 1)
      (reading (numeral a sign b []) q 0 sign.factor false sign.present) =
      .ok (.left (reading (numeral a sign b []) q 0 sign.factor false sign.present)) := by
    cases q with
    | nil => exact loop_stop rfl
    | cons c q =>
      refine loop_brk (readMore_next hp) (readTurn_stray (fun hc => hlead.blank (congrArg some hc)) ?_ (hq c rfl))
      intro hc
      refine decide_eq_true fun habs => ?_
      obtain ⟨-, hplus, hminus⟩ := hlead.absent habs
      exact hc.elim (fun hc => hplus (congrArg some hc)) fun hc => hminus (congrArg some hc)
  show strToInt _ buf = .ok _
  rw [strToInt_eq h (hskip.trans hleft)]
  exact congrArg Except.ok (Int.mul_zero sign.factor)

theorem clamp_factor_eq_zero_iff {n : Nat} : clamp (sign.factor * n) = 0 ↔ n = 0 := by
  unfold clamp intMin intMax
  rcases sign.factor_eq with h | h <;> rw [h] <;> omega

/-- All of the first `INT_MAX + 1` characters are passed over. -/
def Endless (s : List CChar) : Prop :=
  ∃ a sign b D rest, s = numeral a sign b (D ++ rest) ∧ (∀ c ∈ D, IsDigit c) ∧ Overruns a sign b D

theorem not_returns_of_endless {P : Int → Prop} (h : Stores buf s) (hs : Endless s) :
    ¬ Returns (fun fuel => strToInt fuel buf) P := by
  obtain ⟨a, sign, b, D, rest, rfl, hD, hover⟩ := hs
  exact not_returns_of_error (strToInt_overruns h hD hover)

/-- The number behind such blanks is read, and the grammar has none. -/
theorem not_atoi_of_signApart (h : Stores buf s) (hs : SignApart s) :
    ¬ Returns (fun fuel => strToInt fuel buf) (Atoi s) := by
  obtain ⟨a, sign, b, D, rest, hsign, rfl, hD, hrest, hvalue⟩ := hs
  have hne : D ≠ [] := fun hnil => hvalue (hnil ▸ rfl)
  have hlead : Lead sign (b + 1) (D ++ rest) := Lead.of_digits hD hne fun habs => absurd habs hsign
  by_cases hover : Overruns a sign (b + 1) D
  · exact not_returns_of_endless h ⟨a, sign, b + 1, D, rest, rfl, hD, hover⟩
  rw [(strToInt_returns h hne hD hrest hover).iff_of_eq]
  rintro (⟨t, v, ht, hv, -⟩ | ⟨-, hzero⟩)
  · exact hlead.no_numeral (.inl (Nat.succ_ne_zero b)) t v ht hv
  · exact hvalue (clamp_factor_eq_zero_iff.mp hzero)

/-- **`strToInt` lets blanks stand behind the sign.** It follows the grammar
on every string but those where a sign, one or more blanks and a number other
than 0 come first, and those it does not come to the end of. -/
theorem strToInt_atoi_iff (h : Stores buf s) :
    Returns (fun fuel => strToInt fuel buf) (Atoi s) ↔ ¬ SignApart s ∧ ¬ Endless s := by
  refine ⟨fun hret => ⟨fun hs => not_atoi_of_signApart h hs hret, fun hs => not_returns_of_endless h hs hret⟩, ?_⟩
  rintro ⟨hnot, hend⟩
  obtain ⟨a, sign, b, q, rfl, hlead⟩ := exists_lead s
  obtain ⟨D, rest, rfl, hD, hrest⟩ := exists_digits q
  have hover : ¬ Overruns a sign b D := fun hover => hend ⟨a, sign, b, D, rest, rfl, hD, hover⟩
  by_cases hne : D = []
  · subst hne
    rw [(strToInt_no_digit h hlead hrest hover).iff_of_eq]
    exact .inr ⟨hlead.no_numeral (.inr hrest), rfl⟩
  · rw [(strToInt_returns h hne hD hrest hover).iff_of_eq]
    cases b with
    | zero => exact atoi_number hne hD hrest
    | succ b =>
      have hsign : sign ≠ .absent := fun habs => Nat.succ_ne_zero b (hlead.absent habs).1
      have hvalue : decimal D = 0 := by
        by_contra hvalue
        exact hnot ⟨a, sign, b, D, rest, hsign, rfl, hD, hrest, hvalue⟩
      exact .inr ⟨hlead.no_numeral (.inl (Nat.succ_ne_zero b)), clamp_factor_eq_zero_iff.mpr hvalue⟩

theorem strToInt_atoi_sample : Returns (fun fuel => strToInt fuel (sampleNumber ++ [nul])) (Atoi sampleNumber) ↔
    ¬ SignApart sampleNumber ∧ ¬ Endless sampleNumber :=
  strToInt_atoi_iff ⟨by decide, [], rfl⟩

/-- `"- 5"` is read as -5. -/
theorem strToInt_sign_apart : ¬ ∀ buf s : List CChar, Stores buf s →
    Returns (fun fuel => strToInt fuel buf) (Atoi s) := by
  intro h
  have hs : Stores [chr '-', chr ' ', chr '5', nul] [chr '-', chr ' ', chr '5'] := ⟨by decide, [], rfl⟩
  have hfive : IsDigit (chr '5') := by decide
  refine not_atoi_of_signApart hs ⟨0, .minus, 0, [chr '5'], [], by decide, rfl, ?_, ?_, by decide⟩ (h _ _ hs)
  · exact List.forall_mem_singleton.mpr hfive
  · exact fun c hc => absurd hc (by simp)

end LearningDemo.StringToInt
