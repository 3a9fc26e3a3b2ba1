/-
`strToInt` clamps the number it reads, where its index can.

While it reads digits, `result` is the decimal value of those read so far
(`digits_pass`), and a digit is taken only if the value stays inside the
limits (`Inner`). Whatever digits follow, the value can only grow
(`decimal_mono`), so an early return is the clamped value of all of them.
When all of the first `INT_MAX + 1` characters are passed over (`Overruns`),
the index overflows.
-/
import LearningDemo.StringToInt
import Mathlib.Data.List.Induction
import Mathlib.Data.Nat.Digits.Defs

namespace LearningDemo.StringToInt

open Imperative

variable {buf p q D E rest : List CChar} {c : CChar} {fuel : Nat} {negSign : Int} {hasCount hasSign : Bool}

/-- The range of `int`. -/
def InInt (n : Int) : Prop := intMin ≤ n ∧ n ≤ intMax

/-- The number of the range of `int` that is nearest. -/
def clamp (n : Int) : Int := max intMin (min intMax n)

/-- The decimal value of a run of digits. -/
def decimal (D : List CChar) : Nat := Nat.ofDigits 10 (D.reverse.map fun c => (value c).toNat)

/-- A sign, as it is written. -/
inductive Sign where
  | absent
  | plus
  | minus
  deriving DecidableEq, Repr

def Sign.text : Sign → List CChar
  | .absent => []
  | .plus => [chr '+']
  | .minus => [chr '-']

def Sign.factor : Sign → Int
  | .absent => 1
  | .plus => 1
  | .minus => -1

def Sign.present (sign : Sign) : Bool := decide (sign ≠ .absent)

theorem Sign.factor_eq (sign : Sign) : sign.factor = 1 ∨ sign.factor = -1 := by cases sign <;> decide

/-- A string that goes on with `q` behind blanks, a sign and blanks. -/
def numeral (a : Nat) (sign : Sign) (b : Nat) (q : List CChar) : List CChar :=
  List.replicate a (chr ' ') ++ (sign.text ++ (List.replicate b (chr ' ') ++ q))

/-! ## Digits and their values -/

theorem value_digit (hc : IsDigit c) : 0 ≤ value c ∧ value c ≤ 9 := by
  obtain ⟨h0, h9⟩ := hc
  rw [ge_iff_le, Int8.le_iff_toInt_le] at h0
  rw [Int8.le_iff_toInt_le] at h9
  have h48 : (chr '0').toInt = 48 := by decide
  have h57 : (chr '9').toInt = 57 := by decide
  unfold value
  omega

theorem decimal_concat (hc : IsDigit c) : (decimal (D ++ [c]) : Int) = decimal D * 10 + value c := by
  have hv := value_digit hc
  simp only [decimal, List.reverse_append, List.reverse_singleton, List.singleton_append, List.map_cons,
    Nat.ofDigits_cons]
  push_cast
  omega

theorem decimal_mono (hE : ∀ c ∈ E, IsDigit c) : decimal D ≤ decimal (D ++ E) := by
  induction E using List.reverseRecOn with
  | nil => simp
  | append_singleton E c ih =>
    have hc : IsDigit c := hE c (by simp)
    have hle := ih fun c hc => hE c (by simp [hc])
    have hv := value_digit hc
    have hstep := decimal_concat (D := D ++ E) hc
    rw [← List.append_assoc]
    omega

/-! ## The range check -/

/-- The check with the boundary `214748364` and its last digit `7`. -/
theorem outOfRange_eq {result v : Int} : outOfRange negSign result v =
    if negSign = -1 then
      if result > 214748364 then some (-2147483648)
      else if result = 214748364 ∧ v > 7 then some (-2147483648) else none
    else if result > 214748364 then some 2147483647
    else if result = 214748364 ∧ v ≥ 7 then some 2147483647 else none := rfl

/-- Inside the limits. -/
def Inner (n : Int) : Prop := intMin < n ∧ n < intMax

/-- A digit is taken where the number stays inside the limits. -/
theorem outOfRange_none_iff {result v : Int} (hs : negSign = 1 ∨ negSign = -1) (h0 : 0 ≤ result)
    (hv : 0 ≤ v ∧ v ≤ 9) : outOfRange negSign result v = none ↔ Inner (negSign * (result * 10 + v)) := by
  rw [outOfRange_eq]
  unfold Inner intMin intMax
  rcases hs with rfl | rfl
  · rw [if_neg (by decide)]
    split_ifs <;> simp only [false_iff, true_iff] <;> omega
  · rw [if_pos rfl]
    split_ifs <;> simp only [false_iff, true_iff] <;> omega

theorem outOfRange_none {result v : Int} (hv : v ≤ 9) (h : outOfRange negSign result v = none) :
    result * 10 + v ≤ intMax := by
  rw [outOfRange_eq] at h
  unfold intMax
  split_ifs at h <;> omega

/-- An early return is the clamped value of every number that goes on so. -/
theorem outOfRange_some {result v limit n : Int} (hs : negSign = 1 ∨ negSign = -1) (hv : 0 ≤ v)
    (h : outOfRange negSign result v = some limit) (hn : result * 10 + v ≤ n) :
    limit = clamp (negSign * n) := by
  rw [outOfRange_eq] at h
  unfold clamp intMax intMin
  rcases hs with rfl | rfl
  · rw [if_neg (by decide)] at h
    split_ifs at h <;> cases h <;> omega
  · rw [if_pos rfl] at h
    split_ifs at h <;> cases h <;> omega

theorem clamp_of_inner {n : Int} (h : Inner n) : clamp n = n := by
  unfold clamp
  unfold Inner at h
  omega

theorem inner_nil (negSign : Int) : Inner (negSign * decimal []) := by
  rw [show ((decimal [] : Nat) : Int) = 0 from rfl, Int.mul_zero]
  exact ⟨by decide, by decide⟩

theorem inner_of_append (hs : negSign = 1 ∨ negSign = -1) (hE : ∀ c ∈ E, IsDigit c)
    (h : Inner (negSign * decimal (D ++ E))) : Inner (negSign * decimal D) := by
  have hmono := decimal_mono (D := D) hE
  unfold Inner intMin intMax at h ⊢
  rcases hs with rfl | rfl <;> omega

/-- The digits that are taken: all, or those in front of one that leads out of the limits. -/
theorem exists_taken (negSign : Int) (D : List CChar) : ∃ E F, D = E ++ F ∧
    Inner (negSign * decimal E) ∧ ∀ c q, F = c :: q → ¬ Inner (negSign * decimal (E ++ [c])) := by
  induction D using List.reverseRecOn with
  | nil => exact ⟨[], [], rfl, inner_nil negSign, nofun⟩
  | append_singleton D d ih =>
    obtain ⟨E, F, rfl, hE, hF⟩ := ih
    cases F with
    | nil =>
      rw [List.append_nil]
      by_cases hd : Inner (negSign * decimal (E ++ [d]))
      · exact ⟨E ++ [d], [], (List.append_nil _).symm, hd, nofun⟩
      · refine ⟨E, [d], rfl, hE, fun c q heq => ?_⟩
        obtain ⟨rfl, -⟩ := List.cons.inj heq
        exact hd
    | cons c q =>
      refine ⟨E, c :: (q ++ [d]), by simp, hE, fun c' q' heq => ?_⟩
      obtain ⟨rfl, -⟩ := List.cons.inj heq
      exact hF _ q rfl

/-! ## One turn -/

/-- The locals at the head of a turn: `p` is read, `q` is to come. -/
def reading (p q : List CChar) (result negSign : Int) (hasCount hasSign : Bool) : Reading :=
  { result, negSign, hasCount, hasSign, cIndex := p.length, c := q.headD nul }

theorem advance_next {s : Reading} (h : Stores buf (p ++ c :: q)) (hi : s.cIndex = p.length)
    (hroom : p.length < lastIndex) :
    advance buf s = .ok (.next (reading (p ++ [c]) q s.result s.negSign s.hasCount s.hasSign)) := by
  have hlen : s.cIndex + 1 = (p ++ [c]).length := by simp [hi]
  have hint : int (s.cIndex + 1) = .ok ((p ++ [c]).length : Int) := by
    rw [hlen]
    refine int_natCast ?_
    rw [List.length_append, List.length_singleton]
    exact hroom
  simp only [advance, hint, (show Stores buf (p ++ [c] ++ q) by simpa using h).load_head rfl, ok_bind, pure_ok]
  rfl

theorem advance_overflow {s : Reading} (hi : s.cIndex = intMax) : advance buf s = .error .overflow := by
  rw [advance, int_overflow (by omega)]
  rfl

theorem readMore_next {r : Int} (h : Stores buf (p ++ c :: q)) :
    readMore (reading p (c :: q) r negSign hasCount hasSign) = .ok true := by
  simp [readMore, reading, (h.load_char rfl).2]

theorem readTurn_blank {s : Reading} (hc : s.c = chr ' ') (hcount : s.hasCount = false) :
    readTurn buf s = advance buf s := by
  simp [readTurn, hc, hcount]

theorem readTurn_digit {s : Reading} (hc : IsDigit s.c) : readTurn buf s =
    match outOfRange s.negSign s.result (value s.c) with
    | some limit => .ok (.ret limit)
    | none => advance buf { s with result := s.result * 10 + value s.c, hasCount := true } := by
  have hblank : s.c ≠ chr ' ' := fun he => absurd (he ▸ hc) (by decide)
  have hsign : ¬ (s.c = chr '+' ∨ s.c = chr '-') := by
    rintro (he | he) <;> exact absurd (he ▸ hc) (by decide)
  rw [readTurn, if_neg hblank, if_neg hsign, if_pos hc]
  rfl

theorem readTurn_take {s : Reading} (hc : IsDigit s.c) (hr : outOfRange s.negSign s.result (value s.c) = none) :
    readTurn buf s = advance buf { s with result := s.result * 10 + value s.c, hasCount := true } := by
  rw [readTurn_digit hc, hr]

theorem readTurn_limit {s : Reading} {limit : Int} (hc : IsDigit s.c)
    (hr : outOfRange s.negSign s.result (value s.c) = some limit) : readTurn buf s = .ok (.ret limit) := by
  rw [readTurn_digit hc, hr]

theorem readTurn_stop {s : Reading} (hc : ¬ IsDigit s.c) (hcount : s.hasCount = true) :
    readTurn buf s = .ok (.brk s) := by
  simp only [readTurn, hcount, true_or, if_true, if_neg hc, ite_self, pure_ok]

/-- A blank, a first sign or a digit that is taken is passed over: the turn only changes what it says of it. -/
def Passed (buf : List CChar) (s s' : Reading) : Prop :=
  readTurn buf s = advance buf s' ∧ s'.cIndex = s.cIndex

theorem passed_blank {r : Int} :
    Passed buf (reading p (chr ' ' :: q) r negSign false hasSign) (reading p (chr ' ' :: q) r negSign false hasSign) :=
  ⟨readTurn_blank rfl rfl, rfl⟩

theorem passed_digit {r : Int} (hc : IsDigit c) (hr : outOfRange negSign r (value c) = none) :
    Passed buf (reading p (c :: q) r negSign hasCount hasSign)
      { reading p (c :: q) r negSign hasCount hasSign with result := r * 10 + value c, hasCount := true } :=
  ⟨readTurn_take (s := reading p (c :: q) r negSign hasCount hasSign) hc hr, rfl⟩

theorem passed_sign (sign : Sign) (hsign : sign.text = c :: E) {r : Int} :
    Passed buf (reading p (c :: q) r 1 false false)
      { reading p (c :: q) r 1 false false with negSign := sign.factor, hasSign := true } := by
  cases sign with
  | absent => cases hsign
  | plus =>
    obtain ⟨rfl, -⟩ := List.cons.inj hsign
    exact ⟨rfl, rfl⟩
  | minus =>
    obtain ⟨rfl, -⟩ := List.cons.inj hsign
    exact ⟨rfl, rfl⟩

theorem Passed.next {r : Int} {s' : Reading} (h : Stores buf (p ++ c :: q)) (hroom : p.length < lastIndex)
    (hs : Passed buf (reading p (c :: q) r negSign hasCount hasSign) s') :
    readTurn buf (reading p (c :: q) r negSign hasCount hasSign) =
      .ok (.next (reading (p ++ [c]) q s'.result s'.negSign s'.hasCount s'.hasSign)) := by
  rw [hs.1]
  exact advance_next h hs.2 hroom

/-- At the index `INT_MAX` no character is passed over. -/
theorem Passed.overflow {r : Int} {s' : Reading} (hfull : p.length = lastIndex)
    (hs : Passed buf (reading p (c :: q) r negSign hasCount hasSign) s') :
    readTurn buf (reading p (c :: q) r negSign hasCount hasSign) = .error .overflow := by
  rw [hs.1]
  exact advance_overflow (hs.2.trans (by rw [intMax_eq, ← hfull]; rfl))

/-- What the function answers after its loop. -/
def answer : Exit Reading Int → Int
  | .left s => s.negSign * s.result
  | .returned limit => limit

theorem strToInt_eq (h : Stores buf q) {e : Exit Reading Int}
    (he : loop readMore (readTurn buf) fuel (reading [] q 0 1 false false) = .ok e) :
    strToInt fuel buf = .ok (answer e) := by
  have hload : load buf 0 = .ok (q.headD nul) := h.load_head (p := []) rfl
  have hstart : start (q.headD nul) = reading [] q 0 1 false false := rfl
  simp only [strToInt, hload, ok_bind, hstart, he]
  cases e <;> rfl

/-! ## The whole string -/

theorem blanks_pass (fuel : Nat) (negSign : Int) (hasSign : Bool) (n : Nat) {r : Int}
    (h : Stores buf (p ++ (List.replicate n (chr ' ') ++ q))) (hroom : p.length + n ≤ lastIndex) :
    loop readMore (readTurn buf) (fuel + n)
        (reading p (List.replicate n (chr ' ') ++ q) r negSign false hasSign) =
      loop readMore (readTurn buf) fuel (reading (p ++ List.replicate n (chr ' ')) q r negSign false hasSign) := by
  induction n generalizing p with
  | zero => simp
  | succ n ih =>
    rw [List.replicate_succ, List.cons_append] at h ⊢
    have hrest := ih (p := p ++ [chr ' ']) (by simpa using h)
      (by rw [List.length_append, List.length_singleton]; omega)
    rw [← Nat.add_assoc, loop_next (readMore_next h) (passed_blank.next h (by omega))]
    rw [List.append_assoc, List.singleton_append] at hrest
    exact hrest

theorem sign_pass (fuel : Nat) (sign : Sign) {r : Int} (h : Stores buf (p ++ (sign.text ++ q)))
    (hroom : p.length + sign.text.length ≤ lastIndex) :
    loop readMore (readTurn buf) (fuel + sign.text.length) (reading p (sign.text ++ q) r 1 false false) =
      loop readMore (readTurn buf) fuel (reading (p ++ sign.text) q r sign.factor false sign.present) := by
  cases sign with
  | absent => simp [Sign.text, Sign.factor, Sign.present]
  | plus => exact loop_next (readMore_next h) ((passed_sign .plus rfl).next h (Nat.lt_of_succ_le hroom))
  | minus => exact loop_next (readMore_next h) ((passed_sign .minus rfl).next h (Nat.lt_of_succ_le hroom))

theorem digits_pass (fuel : Nat) (hasCount hasSign : Bool) (hs : negSign = 1 ∨ negSign = -1)
    (h : Stores buf (p ++ E ++ (D ++ rest))) (hD : ∀ c ∈ D, IsDigit c) (hin : Inner (negSign * decimal (E ++ D)))
    (hroom : (p ++ E ++ D).length ≤ lastIndex) :
    loop readMore (readTurn buf) (fuel + D.length)
        (reading (p ++ E) (D ++ rest) (decimal E) negSign hasCount hasSign) =
      loop readMore (readTurn buf) fuel
        (reading (p ++ E ++ D) rest (decimal (E ++ D)) negSign (hasCount || !D.isEmpty) hasSign) := by
  induction D generalizing E hasCount with
  | nil => simp
  | cons c D ih =>
    have hc : IsDigit c := hD c (by simp)
    have htail : ∀ d ∈ D, IsDigit d := fun d hd => hD d (by simp [hd])
    have hsplit : E ++ c :: D = E ++ [c] ++ D := by simp
    have hlen : (p ++ E ++ c :: D).length = (p ++ E).length + (D.length + 1) := by
      rw [List.length_append, List.length_cons]
    have hvalue := decimal_concat (D := E) hc
    rw [List.cons_append] at h ⊢
    rw [hsplit] at hin
    have hr : outOfRange negSign (decimal E) (value c) = none := by
      have hfirst := inner_of_append hs htail hin
      rw [hvalue] at hfirst
      exact (outOfRange_none_iff hs (Int.natCast_nonneg _) (value_digit hc)).mpr hfirst
    have hrest := ih true (E := E ++ [c]) (by simpa using h) htail hin (by
      rwa [← List.append_assoc, List.append_assoc (p ++ E), List.singleton_append])
    have hturn : readTurn buf (reading (p ++ E) (c :: (D ++ rest)) (decimal E) negSign hasCount hasSign) =
        .ok (.next (reading (p ++ E ++ [c]) (D ++ rest) (decimal (E ++ [c])) negSign true hasSign)) := by
      rw [hvalue]
      exact (passed_digit hc hr).next h (by omega)
    rw [List.length_cons, ← Nat.add_assoc, loop_next (readMore_next h) hturn, List.append_assoc p E [c], hrest]
    simp

/-- The parts of a numeral in front of its digits. -/
def lead (a : Nat) (sign : Sign) (b : Nat) : Nat := a + sign.text.length + b

theorem length_numeral (a : Nat) (sign : Sign) (b : Nat) (D : List CChar) :
    (numeral a sign b D).length = lead a sign b + D.length := by
  simp [numeral, lead]
  omega

theorem numeral_append (a : Nat) (sign : Sign) (b : Nat) (D rest : List CChar) :
    numeral a sign b (D ++ rest) = numeral a sign b D ++ rest := by
  simp [numeral]

/-- In front of the digits the loop only passes over characters. -/
theorem lead_pass (fuel : Nat) {a b : Nat} {sign : Sign} (h : Stores buf (numeral a sign b q))
    (hroom : lead a sign b ≤ lastIndex) :
    loop readMore (readTurn buf) (fuel + lead a sign b) (reading [] (numeral a sign b q) 0 1 false false) =
      loop readMore (readTurn buf) fuel
        (reading (numeral a sign b []) q 0 sign.factor false sign.present) := by
  unfold lead at hroom ⊢
  unfold numeral at h ⊢
  have hblanks := blanks_pass (fuel + b + sign.text.length) 1 false a (p := []) (r := 0) h
    (by rw [List.length_nil]; omega)
  have hsign := sign_pass (fuel + b) sign (r := 0) h (by rw [List.length_replicate]; omega)
  rw [← List.append_assoc] at h
  have hbehind := blanks_pass fuel sign.factor sign.present b (r := 0) h
    (by rw [List.length_append, List.length_replicate]; omega)
  rw [show fuel + (a + sign.text.length + b) = fuel + b + sign.text.length + a by omega, hblanks, List.nil_append,
    hsign, hbehind, List.append_nil, List.append_assoc]

theorem numeral_pass (fuel : Nat) {a b : Nat} {sign : Sign} (h : Stores buf (numeral a sign b (D ++ rest)))
    (hD : ∀ c ∈ D, IsDigit c) (hin : Inner (sign.factor * decimal D))
    (hroom : (numeral a sign b D).length ≤ lastIndex) :
    loop readMore (readTurn buf) (fuel + (numeral a sign b D).length)
        (reading [] (numeral a sign b (D ++ rest)) 0 1 false false) =
      loop readMore (readTurn buf) fuel
        (reading (numeral a sign b D) rest (decimal D) sign.factor (!D.isEmpty) sign.present) := by
  have hp : numeral a sign b [] ++ D = numeral a sign b D := by rw [← numeral_append, List.nil_append]
  rw [length_numeral] at hroom ⊢
  rw [← Nat.add_assoc, Nat.add_right_comm, lead_pass (fuel + D.length) h (by omega)]
  rw [← List.nil_append (D ++ rest), numeral_append, ← List.append_nil (numeral a sign b [])] at h
  have hdigits := digits_pass fuel false sign.present sign.factor_eq h hD hin
    (by rw [List.append_nil, hp, length_numeral]; exact hroom)
  rw [List.append_nil, List.nil_append, hp, Bool.false_or] at hdigits
  exact hdigits

/-- All of the first `INT_MAX + 1` characters of the string are blanks, the
sign and digits, with a number inside the limits. -/
def Overruns (a : Nat) (sign : Sign) (b : Nat) (D : List CChar) : Prop :=
  lastIndex < (numeral a sign b D).length ∧ Inner (sign.factor * decimal (D.take (lastIndex + 1 - lead a sign b)))

/-- What ends the function behind a number that is passed over: a digit that
leads out of the limits, another character, or the end. -/
theorem strToInt_stops {a b : Nat} {sign : Sign} (h : Stores buf (numeral a sign b (D ++ (E ++ rest))))
    (hne : D ++ E ≠ []) (hD : ∀ c ∈ D, IsDigit c) (hE : ∀ c ∈ E, IsDigit c)
    (hrest : ∀ c ∈ rest.head?, ¬ IsDigit c) (hin : Inner (sign.factor * decimal D))
    (hout : ∀ c q, E = c :: q → ¬ Inner (sign.factor * decimal (D ++ [c])))
    (hroom : (numeral a sign b D).length ≤ lastIndex) :
    Returns (fun fuel => strToInt fuel buf) (· = clamp (sign.factor * decimal (D ++ E))) := by
  refine ⟨1 + (numeral a sign b D).length, fun fuel hfuel => ⟨_, ?_, rfl⟩⟩
  obtain ⟨n, rfl⟩ : ∃ n, fuel = n + 1 + (numeral a sign b D).length :=
    ⟨fuel - 1 - (numeral a sign b D).length, by omega⟩
  have hpass := numeral_pass (n + 1) h hD hin hroom
  rw [numeral_append] at h
  show strToInt _ buf = .ok _
  cases E with
  | nil =>
    rw [List.append_nil] at hne ⊢
    have hcount : (!D.isEmpty) = true := by simpa using hne
    have hleft : loop readMore (readTurn buf) (n + 1)
        (reading (numeral a sign b D) rest (decimal D) sign.factor (!D.isEmpty) sign.present) =
        .ok (.left (reading (numeral a sign b D) rest (decimal D) sign.factor (!D.isEmpty) sign.present)) := by
      cases rest with
      | nil => exact loop_stop rfl
      | cons c q => exact loop_brk (readMore_next h) (readTurn_stop (hrest c rfl) hcount)
    rw [strToInt_eq (numeral_append a sign b D _ ▸ h) (hpass.trans hleft), clamp_of_inner hin]
    rfl
  | cons c q =>
    have hc : IsDigit c := hE c (by simp)
    have hq : ∀ d ∈ q, IsDigit d := fun d hd => hE d (by simp [hd])
    obtain ⟨h0, h9⟩ := value_digit hc
    have hvalue := decimal_concat (D := D) hc
    have hmono := decimal_mono (D := D ++ [c]) hq
    rw [List.append_assoc, List.singleton_append] at hmono
    cases hr : outOfRange sign.factor (decimal D) (value c) with
    | none =>
      rw [outOfRange_none_iff sign.factor_eq (Int.natCast_nonneg _) ⟨h0, h9⟩, ← hvalue] at hr
      exact absurd hr (hout c q rfl)
    | some limit =>
      have hret := hpass.trans (loop_ret (readMore_next h) (readTurn_limit hc hr))
      rw [strToInt_eq (numeral_append a sign b D _ ▸ h) hret]
      exact congrArg Except.ok (outOfRange_some sign.factor_eq h0 hr (by omega))

theorem strToInt_returns {a b : Nat} {sign : Sign} (h : Stores buf (numeral a sign b (D ++ rest)))
    (hne : D ≠ []) (hD : ∀ c ∈ D, IsDigit c) (hrest : ∀ c ∈ rest.head?, ¬ IsDigit c)
    (hend : ¬ Overruns a sign b D) :
    Returns (fun fuel => strToInt fuel buf) (· = clamp (sign.factor * decimal D)) := by
  obtain ⟨E, F, rfl, hin, hout⟩ := exists_taken sign.factor D
  have hE : ∀ c ∈ E, IsDigit c := fun c hc => hD c (by simp [hc])
  have hF : ∀ c ∈ F, IsDigit c := fun c hc => hD c (by simp [hc])
  rw [List.append_assoc] at h
  refine strToInt_stops h hne hE hF hrest hin hout ?_
  -- digits taken at `INT_MAX` and behind would be an overrun
  by_contra hfar
  refine hend ⟨?_, ?_⟩
  · rw [numeral_append, List.length_append]
    omega
  · rw [length_numeral] at hfar
    have hk : lastIndex + 1 - lead a sign b ≤ E.length := by omega
    rw [List.take_append_of_le_length hk]
    rw [← List.take_append_drop (lastIndex + 1 - lead a sign b) E] at hin
    exact inner_of_append sign.factor_eq (fun c hc => hE c (List.mem_of_mem_drop hc)) hin

/-! ## The index overflows -/

theorem overflow_behind {a b : Nat} {sign : Sign} {s' : Reading} (h : Stores buf (numeral a sign b (D ++ c :: q)))
    (hD : ∀ c ∈ D, IsDigit c) (hin : Inner (sign.factor * decimal D))
    (hfull : (numeral a sign b D).length = lastIndex)
    (hpassed : Passed buf
      (reading (numeral a sign b D) (c :: q) (decimal D) sign.factor (!D.isEmpty) sign.present) s') :
    ∀ fuel, lastIndex + 1 ≤ fuel → strToInt fuel buf = .error .overflow := by
  intro fuel hfuel
  obtain ⟨n, rfl⟩ : ∃ n, fuel = n + 1 + (numeral a sign b D).length :=
    ⟨fuel - 1 - (numeral a sign b D).length, by omega⟩
  have hpass := numeral_pass (n + 1) h hD hin (by omega)
  have hload : load buf 0 = .ok ((numeral a sign b (D ++ c :: q)).headD nul) := h.load_head (p := []) rfl
  rw [numeral_append] at h
  have hfault := hpass.trans (loop_fault (readMore_next h) (hpassed.overflow hfull))
  simp only [strToInt, hload, ok_bind]
  exact congrArg (· >>= _) hfault

/-- The character at `INT_MAX` is a blank in front, the sign, or a blank behind it. -/
theorem strToInt_lead_overflow {a b : Nat} {sign : Sign} (h : Stores buf (numeral a sign b q))
    (hfar : lastIndex < lead a sign b) : ∀ fuel, lastIndex + 1 ≤ fuel → strToInt fuel buf = .error .overflow := by
  rcases Nat.lt_or_ge lastIndex a with hblank | hblank
  · obtain ⟨m, hm⟩ : ∃ m, a = lastIndex + (m + 1) := ⟨a - lastIndex - 1, by omega⟩
    have hsplit : numeral a sign b q = numeral lastIndex .absent 0 ([] ++ chr ' ' :: numeral m sign b q) := by
      rw [hm]
      simp [numeral, Sign.text, ← List.replicate_append_replicate, List.replicate_succ]
    rw [hsplit] at h
    exact overflow_behind h nofun (inner_nil _) (by simp [length_numeral, lead, Sign.text]) passed_blank
  rcases Nat.lt_or_ge lastIndex (a + sign.text.length) with hsign | hsign
  · have hfull : a = lastIndex ∧ ∃ c, sign.text = [c] := by
      cases sign with
      | absent => exact absurd hsign (Nat.not_lt.mpr hblank)
      | plus => exact ⟨Nat.le_antisymm hblank (Nat.le_of_lt_succ hsign), _, rfl⟩
      | minus => exact ⟨Nat.le_antisymm hblank (Nat.le_of_lt_succ hsign), _, rfl⟩
    obtain ⟨rfl, c, htext⟩ := hfull
    have hsplit : numeral lastIndex sign b q =
        numeral lastIndex .absent 0 ([] ++ c :: (List.replicate b (chr ' ') ++ q)) := by
      rw [numeral, htext]
      rfl
    rw [hsplit] at h
    exact overflow_behind h nofun (inner_nil _) (by simp [length_numeral, lead, Sign.text]) (passed_sign sign htext)
  · obtain ⟨m, k, hm, hk⟩ : ∃ m k, b = m + (k + 1) ∧ a + sign.text.length + m = lastIndex := by
      unfold lead at hfar
      exact ⟨lastIndex - a - sign.text.length, b - (lastIndex - a - sign.text.length) - 1, by omega, by omega⟩
    have hsplit : numeral a sign b q =
        numeral a sign m ([] ++ chr ' ' :: (List.replicate k (chr ' ') ++ q)) := by
      rw [hm]
      simp [numeral, ← List.replicate_append_replicate, List.replicate_succ]
    rw [hsplit] at h
    exact overflow_behind h nofun (inner_nil _) (by rw [length_numeral, lead, hk]; rfl) passed_blank

/-- Where all the characters up to the index `INT_MAX` are passed over, the index overflows. -/
theorem strToInt_overruns {a b : Nat} {sign : Sign} (h : Stores buf (numeral a sign b (D ++ rest)))
    (hD : ∀ c ∈ D, IsDigit c) (hover : Overruns a sign b D) :
    ∀ fuel, lastIndex + 1 ≤ fuel → strToInt fuel buf = .error .overflow := by
  obtain ⟨hlen, hin⟩ := hover
  rw [length_numeral] at hlen
  rcases Nat.lt_or_ge lastIndex (lead a sign b) with hlead | hlead
  · exact strToInt_lead_overflow h hlead
  · -- the character there is a digit
    have hlt : lastIndex - lead a sign b < D.length := by omega
    obtain ⟨E, c, F, rfl, hE⟩ : ∃ E c F, D = E ++ c :: F ∧ E.length = lastIndex - lead a sign b := by
      have hsplit := List.take_append_drop (lastIndex - lead a sign b) D
      rw [List.drop_eq_getElem_cons hlt] at hsplit
      exact ⟨_, _, _, hsplit.symm, List.length_take_of_le (Nat.le_of_lt hlt)⟩
    have hc : IsDigit c := hD c (by simp)
    have htake : (E ++ c :: F).take (lastIndex + 1 - lead a sign b) = E ++ [c] := by
      rw [show lastIndex + 1 - lead a sign b = E.length + 1 by omega, List.take_length_add_append]
      rfl
    rw [htake] at hin
    have hr : outOfRange sign.factor (decimal E) (value c) = none := by
      rw [outOfRange_none_iff sign.factor_eq (Int.natCast_nonneg _) (value_digit hc), ← decimal_concat hc]
      exact hin
    rw [List.append_assoc, List.cons_append] at h
    refine overflow_behind h (fun d hd => hD d (by simp [hd]))
      (inner_of_append sign.factor_eq (List.forall_mem_singleton.mpr hc) hin) ?_ (passed_digit hc hr)
    rw [length_numeral]
    omega

/-! ## The range of `result` -/

theorem advance_result {s t : Reading} (h : advance buf s = .ok (.next t)) : t.result = s.result := by
  simp only [advance, bind_ok] at h
  obtain ⟨i, -, c, -, h⟩ := h
  cases h
  rfl

/-- A turn that goes on keeps `result` in range. -/
theorem readTurn_result {s t : Reading} (hs : 0 ≤ s.result ∧ s.result ≤ intMax)
    (h : readTurn buf s = .ok (.next t)) : 0 ≤ t.result ∧ t.result ≤ intMax := by
  by_cases hc : IsDigit s.c
  · obtain ⟨h0, h9⟩ := value_digit hc
    cases hr : outOfRange s.negSign s.result (value s.c) with
    | none =>
      rw [readTurn_take hc hr] at h
      rw [advance_result h]
      exact ⟨by show 0 ≤ s.result * 10 + value s.c; omega, outOfRange_none h9 hr⟩
    | some limit => simp [readTurn_limit hc hr] at h
  · have hkeep : t.result = s.result := by
      unfold readTurn at h
      split_ifs at h with hblank hcount hsign hboth hminus
      · cases h
      · exact advance_result h
      · cases h
      · exact advance_result (s := { s with negSign := -1, hasSign := true }) h
      · exact advance_result (s := { s with hasSign := true }) h
      · cases h
    rw [hkeep]
    exact hs

theorem result_range {s : Reading} (h : Heads readMore (readTurn buf) (start c) s) :
    0 ≤ s.result ∧ s.result ≤ intMax :=
  h.invariant (I := fun s => 0 ≤ s.result ∧ s.result ≤ intMax) (fun _ _ ht _ hb => readTurn_result ht hb)
    ⟨Int.le_refl 0, (by decide : (0 : Int) ≤ intMax)⟩

/-- **`strToInt` saturates exactly, as far as its index goes.** It returns the
number of its string clamped to the range of `int`, unless it passes over the
first `INT_MAX + 1` characters; at the head of every turn `result` is in
`0..INT_MAX`, and a digit that passes the range check is taken without leaving
the range. -/
theorem strToInt_saturates_iff {a b : Nat} {sign : Sign} (h : Stores buf (numeral a sign b (D ++ rest)))
    (hne : D ≠ []) (hD : ∀ c ∈ D, IsDigit c) (hrest : ∀ c ∈ rest.head?, ¬ IsDigit c) :
    (Returns (fun fuel => strToInt fuel buf) (· = max intMin (min intMax (sign.factor * decimal D))) ↔
      ¬ Overruns a sign b D) ∧
    ∀ c s, load buf 0 = .ok c → Heads readMore (readTurn buf) (start c) s →
      (0 ≤ s.result ∧ s.result ≤ intMax) ∧
      (IsDigit s.c → outOfRange s.negSign s.result (value s.c) = none →
        InInt (s.result * 10) ∧ InInt (s.result * 10 + value s.c)) := by
  refine ⟨⟨fun hret hover => ?_, strToInt_returns h hne hD hrest⟩, fun c s _ hs => ?_⟩
  · exact not_returns_of_error (strToInt_overruns h hD hover) hret
  · obtain ⟨h0, hmax⟩ := result_range hs
    refine ⟨⟨h0, hmax⟩, fun hc hr => ?_⟩
    obtain ⟨hv, h9⟩ := value_digit hc
    have hnext := outOfRange_none h9 hr
    unfold InInt intMin
    omega

/-- The string of `viewDidLoad`. -/
def sampleNumber : List CChar := "-91283472332".toList.map chr

theorem strToInt_sample :
    (Returns (fun fuel => strToInt fuel (sampleNumber ++ [nul]))
      (· = max intMin (min intMax (Sign.minus.factor * decimal (sampleNumber.drop 1)))) ↔
      ¬ Overruns 0 .minus 0 (sampleNumber.drop 1)) ∧
    ∀ c s, load (sampleNumber ++ [nul]) 0 = .ok c →
      Heads readMore (readTurn (sampleNumber ++ [nul])) (start c) s →
      (0 ≤ s.result ∧ s.result ≤ intMax) ∧
      (IsDigit s.c → outOfRange s.negSign s.result (value s.c) = none →
        InInt (s.result * 10) ∧ InInt (s.result * 10 + value s.c)) :=
  strToInt_saturates_iff (a := 0) (b := 0) ⟨by decide, [], rfl⟩ (by decide) (by decide +kernel)
    (fun c (hc : c ∈ [].head?) => by cases hc)

theorem nul_not_mem_numeral {a b : Nat} {sign : Sign} (hD : ∀ c ∈ D, IsDigit c) : nul ∉ numeral a sign b D := by
  simp only [numeral, List.mem_append, List.mem_replicate, not_or, not_and]
  have hblank : nul ≠ chr ' ' := by decide
  refine ⟨fun _ => hblank, ?_, fun _ => hblank, fun hmem => absurd (hD nul hmem) (by decide)⟩
  cases sign <;> decide

/-- Behind `2^31` blanks stands a number. -/
theorem strToInt_blanks_overrun : ¬ ∀ (buf D rest : List CChar) (a b : Nat) (sign : Sign),
    Stores buf (numeral a sign b (D ++ rest)) → D ≠ [] → (∀ c ∈ D, IsDigit c) →
    (∀ c ∈ rest.head?, ¬ IsDigit c) →
    Returns (fun fuel => strToInt fuel buf) (· = max intMin (min intMax (sign.factor * decimal D))) := by
  intro h
  have hfive : ∀ c ∈ [chr '5'], IsDigit c := List.forall_mem_singleton.mpr (by decide)
  have hs : Stores (numeral (lastIndex + 1) .absent 0 ([chr '5'] ++ []) ++ [nul])
      (numeral (lastIndex + 1) .absent 0 ([chr '5'] ++ [])) := ⟨nul_not_mem_numeral hfive, [], rfl⟩
  have hover : Overruns (lastIndex + 1) .absent 0 [chr '5'] := by
    rw [Overruns, length_numeral]
    have hlead : lead (lastIndex + 1) .absent 0 = lastIndex + 1 := rfl
    rw [hlead, Nat.sub_self]
    exact ⟨by omega, inner_nil _⟩
  exact not_returns_of_error (strToInt_overruns hs hfive hover)
    (h _ _ _ _ _ _ hs (by decide) hfive (fun c hc => by cases hc))

example : strToInt 13 (sampleNumber ++ [nul]) = .ok intMin := by decide

end LearningDemo.StringToInt
