/-
The blank-to-`%20` replacement works in place.

While the characters `p` are still to be read, the buffer holds `p`, a gap
of twice the blanks in `p`, and the encoded rest (`Moved`). So no character
is overwritten before it is read, and when the two cursors meet there is no
blank left in front of them. Where the new length is no `int` nothing of this
happens.
-/
import LearningDemo.StringArray
import Mathlib.Data.List.Basic

namespace LearningDemo.StringArray

open Imperative

variable {string s p q tail : List CChar} {c : CChar} {fuel : Nat}

/-- The string with every blank replaced by `%20`. -/
def encode (s : List CChar) : List CChar :=
  s.flatMap fun c => if c = chr ' ' then [chr '%', chr '2', chr '0'] else [c]

/-- The blanks of the string. -/
def blanks (s : List CChar) : Nat := s.count (chr ' ')

theorem encode_append : encode (p ++ q) = encode p ++ encode q := List.flatMap_append

@[simp] theorem encode_blank : encode [chr ' '] = [chr '%', chr '2', chr '0'] := rfl

theorem encode_other (h : c ≠ chr ' ') : encode [c] = [c] := by simp [encode, h]

theorem encode_of_blanks_zero (h : blanks p = 0) : encode p = p := by
  induction p with
  | nil => rfl
  | cons c p ih =>
    have hc : c ≠ chr ' ' := fun he => by simp [blanks, he] at h
    have hp : blanks p = 0 := by simpa [blanks, hc] using h
    rw [← List.singleton_append, encode_append, encode_other hc, ih hp]

theorem length_encode (s : List CChar) : (encode s).length = s.length + 2 * blanks s := by
  induction s with
  | nil => rfl
  | cons c s ih =>
    rw [← List.singleton_append, encode_append, List.length_append, ih, List.length_append]
    by_cases hc : c = chr ' '
    · subst hc
      simp [blanks]
      omega
    · rw [encode_other hc]
      simp [blanks, hc]
      omega

/-! ## The counting loop -/

theorem blanks_le (s : List CChar) : blanks s ≤ s.length := List.count_le_length

theorem countTurn_next (hs : Stores string (p ++ c :: q)) (hroom : p.length < lastIndex) :
    countTurn string ⟨p.length, blanks p⟩ = .ok ⟨(p ++ [c]).length, blanks (p ++ [c])⟩ := by
  have hload := (hs.load_char rfl).1
  have hlen : int (p.length + 1) = .ok (p.length + 1) := int_natCast (n := p.length + 1) hroom
  by_cases hb : c = chr ' '
  · have hle := blanks_le p
    have hblank : int (blanks p + 1) = .ok (blanks p + 1) := int_natCast (n := blanks p + 1) (by omega)
    have hcount : blanks (p ++ [c]) = blanks p + 1 := by simp [blanks, hb]
    rw [hcount, List.length_append]
    simp only [countTurn, hload, ok_bind, if_pos hb, hblank, hlen]
    rfl
  · have hcount : blanks (p ++ [c]) = blanks p := by simp [blanks, hb]
    rw [hcount, List.length_append]
    simp only [countTurn, hload, ok_bind, if_neg hb, pure_ok, hlen]
    rfl

/-- No `int` counts more than `INT_MAX` characters. -/
theorem countTurn_overflow (hs : Stores string (p ++ c :: q)) (hfull : p.length = lastIndex) :
    countTurn string ⟨p.length, blanks p⟩ = .error .overflow := by
  have hload := (hs.load_char rfl).1
  have hlen : int (p.length + 1) = .error .overflow := int_natCast_overflow (n := p.length + 1) (by omega)
  by_cases hb : c = chr ' '
  · rcases Nat.lt_or_ge (blanks p) lastIndex with hmax | hmax
    · have hblank : int (blanks p + 1) = .ok (blanks p + 1) := int_natCast (n := blanks p + 1) hmax
      simp only [countTurn, hload, ok_bind, if_pos hb, hblank, hlen, error_bind]
    · have hblank : int (blanks p + 1) = .error .overflow := int_natCast_overflow (n := blanks p + 1) (by omega)
      simp only [countTurn, hload, ok_bind, if_pos hb, hblank, error_bind]
  · simp only [countTurn, hload, ok_bind, if_neg hb, pure_ok, hlen, error_bind]

theorem countMore_next (hs : Stores string (p ++ c :: q)) :
    countMore string ⟨p.length, blanks p⟩ = .ok true := by
  obtain ⟨hload, hc⟩ := hs.load_char rfl
  simp [countMore, hload, hc]

theorem count_pass (fuel : Nat) (hs : Stores string (p ++ (q ++ tail))) (hroom : (p ++ q).length ≤ lastIndex) :
    whileLoop (countMore string) (countTurn string) (fuel + q.length) ⟨p.length, blanks p⟩ =
      whileLoop (countMore string) (countTurn string) fuel ⟨(p ++ q).length, blanks (p ++ q)⟩ := by
  induction q generalizing p with
  | nil => simp
  | cons c q ih =>
    rw [List.cons_append] at hs
    have hlen : p.length + (q.length + 1) ≤ lastIndex := by simpa using hroom
    rw [List.length_cons, ← Nat.add_assoc, whileLoop_turn (countMore_next hs) (countTurn_next hs (by omega)),
      ih (by simpa using hs) (by simpa using hroom)]
    simp

theorem count_loop (hs : Stores string s) (hroom : s.length ≤ lastIndex) (hfuel : s.length < fuel) :
    whileLoop (countMore string) (countTurn string) fuel ⟨0, 0⟩ = .ok ⟨s.length, blanks s⟩ := by
  obtain ⟨n, rfl⟩ : ∃ n, fuel = n + 1 + s.length := ⟨fuel - 1 - s.length, by omega⟩
  have hpass := count_pass (n + 1) (p := []) (by rwa [List.nil_append, List.append_nil]) hroom
  refine hpass.trans (whileLoop_stop ?_)
  simp [countMore, hs.load_nul rfl]

theorem count_overflow (hs : Stores string s) (hfar : lastIndex < s.length) (hfuel : lastIndex < fuel) :
    whileLoop (countMore string) (countTurn string) fuel ⟨0, 0⟩ = .error .overflow := by
  have hsplit := List.take_append_drop lastIndex s
  rw [List.drop_eq_getElem_cons hfar] at hsplit
  rw [← hsplit] at hs
  have hlen : (s.take lastIndex).length = lastIndex := List.length_take_of_le (Nat.le_of_lt hfar)
  obtain ⟨n, rfl⟩ : ∃ n, fuel = n + 1 + (s.take lastIndex).length := ⟨fuel - 1 - lastIndex, by omega⟩
  exact (count_pass (n + 1) (p := []) hs (Nat.le_of_eq hlen)).trans
    (whileLoop_body_fault (countMore_next hs) (countTurn_overflow hs hlen))

/-! ## The moving loop -/

theorem split_gap (c : CChar) (gap : List CChar) {n : Nat} (hn : n ≤ gap.length + 1) :
    ∃ gap' cells, c :: gap = gap' ++ cells ∧ cells.length = n ∧ gap'.length + n = gap.length + 1 := by
  refine ⟨_, _, (List.take_append_drop (gap.length + 1 - n) (c :: gap)).symm, ?_, ?_⟩ <;> simp <;> omega

theorem moveTurn_char (p gap rest : List CChar) (hc : c ≠ chr ' ') :
    ∃ gap', gap'.length = gap.length ∧
      moveTurn ⟨p ++ c :: gap ++ rest, p.length + 1, p.length + 1 + gap.length⟩ =
        .ok ⟨p ++ gap' ++ (encode [c] ++ rest), p.length, p.length + gap'.length⟩ := by
  obtain ⟨gap', cells, hsplit, hone, hlen⟩ := split_gap c gap (show 1 ≤ gap.length + 1 by omega)
  obtain ⟨x, rfl⟩ := List.length_eq_one_iff.mp hone
  refine ⟨gap', by omega, ?_⟩
  have hread : (p.length : Int) + 1 - 1 = p.length := by omega
  have hwrite : (p.length : Int) + 1 + gap.length - 1 = p.length + gap'.length := by omega
  have hload : load (p ++ c :: gap ++ rest) p.length = .ok c := by
    rw [List.append_assoc]
    exact load_at rfl
  have hstore : store (p ++ c :: gap ++ rest) (p.length + gap'.length) c = .ok (p ++ gap' ++ (c :: rest)) := by
    rw [hsplit, ← List.append_assoc, List.append_assoc _ [x]]
    exact store_at (by simp)
  simp only [moveTurn, hread, hwrite, hload, hstore, ok_bind, ne_eq, hc, not_false_eq_true, if_true, pure_ok,
    encode_other hc, List.singleton_append]

/-- A blank becomes three characters, in the last three cells of its gap. -/
theorem moveTurn_blank (p rest : List CChar) {gap : List CChar} (hgap : 2 ≤ gap.length) :
    ∃ gap', gap'.length + 2 = gap.length ∧
      moveTurn ⟨p ++ chr ' ' :: gap ++ rest, p.length + 1, p.length + 1 + gap.length⟩ =
        .ok ⟨p ++ gap' ++ (encode [chr ' '] ++ rest), p.length, p.length + gap'.length⟩ := by
  obtain ⟨gap', cells, hsplit, hthree, hlen⟩ := split_gap (chr ' ') gap (show 3 ≤ gap.length + 1 by omega)
  obtain ⟨x, y, z, rfl⟩ := List.length_eq_three.mp hthree
  refine ⟨gap', by omega, ?_⟩
  have hread : (p.length : Int) + 1 - 1 = p.length := by omega
  have hwrite : (p.length : Int) + 1 + gap.length - 1 = p.length + gap'.length + 2 := by omega
  have hload : load (p ++ chr ' ' :: gap ++ rest) p.length = .ok (chr ' ') := by
    rw [List.append_assoc]
    exact load_at rfl
  -- `'0'`, `'2'` and `'%'`, from the back
  have hzero : store (p ++ chr ' ' :: gap ++ rest) (p.length + gap'.length + 2) (chr '0') =
      .ok (p ++ gap' ++ [x, y] ++ (chr '0' :: rest)) := by
    have hstr : p ++ chr ' ' :: gap ++ rest = p ++ gap' ++ [x, y] ++ z :: rest := by rw [hsplit]; simp
    rw [hstr]
    exact store_at (by simp; omega)
  have htwo : store (p ++ gap' ++ [x, y] ++ (chr '0' :: rest)) (p.length + gap'.length + 2 - 1) (chr '2') =
      .ok (p ++ gap' ++ [x] ++ (chr '2' :: chr '0' :: rest)) := by
    have hstr : p ++ gap' ++ [x, y] ++ (chr '0' :: rest) = p ++ gap' ++ [x] ++ y :: chr '0' :: rest := by simp
    rw [hstr]
    exact store_at (by simp; omega)
  have hpercent : store (p ++ gap' ++ [x] ++ (chr '2' :: chr '0' :: rest)) (p.length + gap'.length + 2 - 1 - 1)
      (chr '%') = .ok (p ++ gap' ++ (chr '%' :: chr '2' :: chr '0' :: rest)) := by
    rw [List.append_assoc (p ++ gap'), List.singleton_append]
    exact store_at (by simp; omega)
  simp only [moveTurn, hread, hwrite, hload, ok_bind, ne_eq, not_true_eq_false, if_false, hzero, htwo, hpercent,
    pure_ok]
  have hend : (p.length : Int) + gap'.length + 2 - 1 - 1 = p.length + gap'.length := by omega
  rw [hend]
  rfl

/-- While `p` is to be read: it stands before a gap of twice its blanks, and
the rest is in place behind the gap. -/
def Moved (s tail : List CChar) (k : Nat) (m : Moving) : Prop :=
  ∃ p q gap, s = p ++ q ∧ m = ⟨p ++ gap ++ (encode q ++ tail), p.length, p.length + gap.length⟩ ∧
    gap.length = 2 * blanks p ∧ p.length = k

theorem Moved.turn {k : Nat} {m : Moving} (hm : Moved s tail k m) (hmore : moveMore m = .ok true) :
    ∃ m', moveTurn m = .ok m' ∧ ∃ j, Moved s tail j m' ∧ j < k := by
  obtain ⟨p, q, gap, rfl, rfl, hgap, rfl⟩ := hm
  rcases List.eq_nil_or_concat p with rfl | ⟨p, c, rfl⟩
  · simp [moveMore] at hmore
  · rw [List.concat_eq_append] at hgap ⊢
    have hstate : (⟨p ++ [c] ++ gap ++ (encode q ++ tail), (p ++ [c]).length, (p ++ [c]).length + gap.length⟩ :
        Moving) = ⟨p ++ c :: gap ++ (encode q ++ tail), p.length + 1, p.length + 1 + gap.length⟩ := by simp
    rw [hstate]
    by_cases hc : c = chr ' '
    · subst hc
      have hblank : blanks (p ++ [chr ' ']) = blanks p + 1 := by simp [blanks]
      obtain ⟨gap', hlen, hturn⟩ := moveTurn_blank p (encode q ++ tail) (show 2 ≤ gap.length by omega)
      refine ⟨_, hturn, p.length, ⟨p, chr ' ' :: q, gap', by simp, ?_, by omega, rfl⟩, by simp⟩
      rw [← List.singleton_append (l := q), encode_append, List.append_assoc (encode _)]
    · have hother : blanks (p ++ [c]) = blanks p := by simp [blanks, hc]
      obtain ⟨gap', hlen, hturn⟩ := moveTurn_char p gap (encode q ++ tail) hc
      refine ⟨_, hturn, p.length, ⟨p, c :: q, gap', by simp, ?_, by omega, rfl⟩, by simp⟩
      rw [← List.singleton_append (l := q), encode_append, List.append_assoc (encode _)]

theorem moveMore_false {m : Moving} (hmore : moveMore m = .ok false) (h : m.strLength > 0) :
    m.newStrLength ≤ m.strLength := by
  by_contra hlt
  have htrue : moveMore m = .ok true := by simp [moveMore, h, show m.newStrLength > m.strLength by omega]
  rw [htrue] at hmore
  cases hmore

/-- When the loop ends no blank is left to read, and the buffer is done. -/
theorem Moved.done {k : Nat} {m : Moving} (hm : Moved s tail k m) (hmore : moveMore m = .ok false) :
    m.string = encode s ++ tail := by
  obtain ⟨p, q, gap, rfl, rfl, hgap, rfl⟩ := hm
  have hzero : blanks p = 0 := by
    cases p with
    | nil => rfl
    | cons c p =>
      have hmet := moveMore_false hmore (by simp)
      have hlen : gap.length = 0 := by
        simp only at hmet
        omega
      omega
  have hnil : gap = [] := List.length_eq_zero_iff.mp (by omega)
  simp only [hnil, List.append_nil, encode_append, encode_of_blanks_zero hzero, List.append_assoc]

/-! ## The result -/

/-- The buffer after the replacement, for a string in a large enough one. -/
theorem replaceBlank_returns (hs : Stores string s) (hcap : s.length + 2 * blanks s < string.length)
    (hint : s.length + 2 * blanks s ≤ lastIndex) :
    Returns (fun fuel => replaceBlankToANSCIIString fuel string)
      (· = encode s ++ string.drop (s.length + 2 * blanks s)) := by
  refine ⟨s.length + 1, fun fuel hfuel => ⟨_, ?_, rfl⟩⟩
  show replaceBlankToANSCIIString fuel string = .ok (encode s ++ string.drop (s.length + 2 * blanks s))
  have hcount : whileLoop (countMore string) (countTurn string) fuel ⟨0, 0⟩ = .ok ⟨s.length, blanks s⟩ :=
    count_loop hs (by omega) hfuel
  have htwice : int (2 * blanks s) = .ok ((2 * blanks s : Nat) : Int) := int_natCast (n := 2 * blanks s) (by omega)
  have hsum : int (s.length + (2 * blanks s : Nat)) = .ok ((s.length + 2 * blanks s : Nat) : Int) :=
    int_natCast (n := s.length + 2 * blanks s) hint
  obtain ⟨hnul, rest, rfl⟩ := hs
  -- the gap: the cells behind the string that the encoded one will need
  have hstart : s ++ nul :: rest = s ++ (nul :: rest).take (2 * blanks s) ++
      (encode [] ++ (s ++ nul :: rest).drop (s.length + 2 * blanks s)) := by
    rw [List.drop_length_add_append, List.append_assoc]
    simp [encode]
  have hgap : ((nul :: rest).take (2 * blanks s)).length = 2 * blanks s := by
    rw [List.length_append] at hcap
    rw [List.length_take]
    omega
  obtain ⟨m, hm, ⟨k, hmoved⟩, hend⟩ := whileLoop_returns (c := moveMore) (I := Moved s _)
    (fun k m hm => by
      cases hmore : moveMore m with
      | error e => simp [moveMore] at hmore
      | ok more =>
        cases more with
        | false => exact .inl rfl
        | true =>
          obtain ⟨m', hturn, j, hj, hlt⟩ := hm.turn hmore
          exact .inr ⟨rfl, m', j, hturn, hj, hlt⟩)
    ⟨s, [], _, by simp, rfl, hgap, rfl⟩ hfuel
  rw [← hstart, hgap] at hm
  rw [← hmoved.done hend]
  simp only [replaceBlankToANSCIIString, hcount, htwice, ok_bind, hsum]
  rw [Int.natCast_add, hm]
  rfl

theorem replaceBlank_overflow (hs : Stores string s) (hfar : lastIndex < s.length + 2 * blanks s) :
    ∀ fuel, lastIndex + s.length < fuel → replaceBlankToANSCIIString fuel string = .error .overflow := by
  intro fuel hfuel
  rcases Nat.lt_or_ge lastIndex s.length with hlong | hroom
  · have hcount : whileLoop (countMore string) (countTurn string) fuel ⟨0, 0⟩ = .error .overflow :=
      count_overflow hs hlong (by omega)
    simp only [replaceBlankToANSCIIString, hcount, error_bind]
  · have hcount : whileLoop (countMore string) (countTurn string) fuel ⟨0, 0⟩ = .ok ⟨s.length, blanks s⟩ :=
      count_loop hs hroom (by omega)
    rcases Nat.lt_or_ge lastIndex (2 * blanks s) with hmany | hfew
    · have htwice : int (2 * blanks s) = .error .overflow := int_natCast_overflow (n := 2 * blanks s) hmany
      simp only [replaceBlankToANSCIIString, hcount, ok_bind, htwice, error_bind]
    · have htwice : int (2 * blanks s) = .ok ((2 * blanks s : Nat) : Int) := int_natCast (n := 2 * blanks s) hfew
      have hsum : int (s.length + (2 * blanks s : Nat)) = .error .overflow :=
        int_natCast_overflow (n := s.length + 2 * blanks s) hfar
      simp only [replaceBlankToANSCIIString, hcount, ok_bind, htwice, hsum, error_bind]

theorem not_returns_of_overflow {P : List CChar → Prop} (hs : Stores string s)
    (hfar : lastIndex < s.length + 2 * blanks s) :
    ¬ Returns (fun fuel => replaceBlankToANSCIIString fuel string) P :=
  not_returns_of_error fun fuel (hfuel : lastIndex + s.length + 1 ≤ fuel) => replaceBlank_overflow hs hfar fuel hfuel

/-- What an exact replacement in place leaves in the buffer. -/
def Exact (string s out : List CChar) : Prop :=
  out.length = string.length ∧ out.take (s.length + 2 * blanks s) = encode s ∧
    (∀ i, s.length + 2 * blanks s ≤ i → out[i]? = string[i]?) ∧ (blanks s = 0 → out = string)

theorem exact_append (hs : Stores string s) (hcap : s.length + 2 * blanks s + 1 ≤ string.length) :
    Exact string s (encode s ++ string.drop (s.length + 2 * blanks s)) := by
  have hlen := length_encode s
  refine ⟨by simp; omega, by rw [← hlen, List.take_left], fun i hi => ?_, fun hzero => ?_⟩
  · rw [List.getElem?_append_right (by omega), List.getElem?_drop]
    congr 1
    omega
  · obtain ⟨hnul, rest, rfl⟩ := hs
    rw [hzero, encode_of_blanks_zero hzero]
    simp

/-- **The replacement is exact and in place, where the new length is an `int`.**
In a buffer with room for the encoded string, its `s.length + 2 * blanks s`
bytes are `s` with every blank replaced by `%20`, no byte from there on has
changed, and without a blank nothing has. -/
theorem replaceBlank_exact_iff (hs : Stores string s) (hcap : s.length + 2 * blanks s + 1 ≤ string.length) :
    Returns (fun fuel => replaceBlankToANSCIIString fuel string) (Exact string s) ↔
      s.length + 2 * blanks s ≤ lastIndex := by
  refine ⟨fun hret => ?_, fun hint => ?_⟩
  · by_contra hfar
    exact not_returns_of_overflow hs (Nat.lt_of_not_le hfar) hret
  · rw [(replaceBlank_returns hs hcap hint).iff_of_eq]
    exact exact_append hs hcap

/-- The string of `viewDidLoad`, in its buffer of 60. -/
def sampleString : List CChar := "a b c d e f g h i j k l m n ".toList.map chr

theorem sampleString_stored : Stores (sampleString ++ List.replicate 32 nul) sampleString :=
  ⟨by decide, List.replicate 31 nul, rfl⟩

theorem replaceBlank_sample :
    Returns (fun fuel => replaceBlankToANSCIIString fuel (sampleString ++ List.replicate 32 nul))
        (Exact (sampleString ++ List.replicate 32 nul) sampleString) ↔
      sampleString.length + 2 * blanks sampleString ≤ lastIndex :=
  replaceBlank_exact_iff sampleString_stored (by decide)

/-- `INT_MAX` blanks, in a buffer with room for three times as many bytes. -/
theorem replaceBlank_blanks_overflow :
    ¬ ∀ string s : List CChar, Stores string s → s.length + 2 * blanks s + 1 ≤ string.length →
      Returns (fun fuel => replaceBlankToANSCIIString fuel string) (Exact string s) := by
  intro h
  have hlen : (List.replicate lastIndex (chr ' ')).length = lastIndex := List.length_replicate
  have hblanks : blanks (List.replicate lastIndex (chr ' ')) = lastIndex := List.count_replicate_self
  have hs : Stores (List.replicate lastIndex (chr ' ') ++ nul :: List.replicate (2 * lastIndex) nul)
      (List.replicate lastIndex (chr ' ')) :=
    ⟨fun hmem => absurd (List.mem_replicate.mp hmem).2 (by decide), _, rfl⟩
  have hpos : 0 < lastIndex := by decide
  refine not_returns_of_overflow hs (by rw [hlen, hblanks]; omega) (h _ _ hs ?_)
  rw [hlen, hblanks, List.length_append, List.length_cons, hlen, List.length_replicate]
  omega

/-! ## The terminator -/

theorem nul_not_mem_encode (hs : nul ∉ s) : nul ∉ encode s := by
  intro h
  obtain ⟨c, hc, hmem⟩ := List.mem_flatMap.mp h
  by_cases hb : c = chr ' '
  · rw [if_pos hb] at hmem
    exact absurd hmem (by decide)
  · rw [if_neg hb, List.mem_singleton] at hmem
    exact hs (hmem ▸ hc)

/-- Without a blank the byte behind the result is the terminator of the string. -/
theorem getElem?_end (hs : Stores string s) (hzero : blanks s = 0) :
    string[s.length + 2 * blanks s]? = some nul := by
  obtain ⟨-, rest, rfl⟩ := hs
  simp [hzero]

/-- **The result is terminated only by accident.** The moving loop starts with
the last character and leaves the byte behind the result alone: it is a
terminator when the string has no blank, or when it was one before. -/
theorem replaceBlank_terminated_iff (hs : Stores string s)
    (hcap : s.length + 2 * blanks s + 1 ≤ string.length) :
    Returns (fun fuel => replaceBlankToANSCIIString fuel string)
        (fun out => ∃ t, Stores out t ∧ t.length = s.length + 2 * blanks s) ↔
      s.length + 2 * blanks s ≤ lastIndex ∧ (blanks s = 0 ∨ string[s.length + 2 * blanks s]? = some nul) := by
  rcases Nat.lt_or_ge lastIndex (s.length + 2 * blanks s) with hfar | hint
  · exact iff_of_false (not_returns_of_overflow hs hfar) fun h => Nat.not_lt.mpr h.1 hfar
  rw [(replaceBlank_returns hs hcap hint).iff_of_eq, ← length_encode, stores_append (nul_not_mem_encode hs.1),
    List.head?_drop, length_encode]
  exact ⟨fun h => ⟨hint, .inr h⟩, fun h => h.2.elim (getElem?_end hs) id⟩

theorem replaceBlank_terminated_sample :
    Returns (fun fuel => replaceBlankToANSCIIString fuel (sampleString ++ List.replicate 32 nul))
        (fun out => ∃ t, Stores out t ∧ t.length = sampleString.length + 2 * blanks sampleString) ↔
      sampleString.length + 2 * blanks sampleString ≤ lastIndex ∧ (blanks sampleString = 0 ∨
        (sampleString ++ List.replicate 32 nul)[sampleString.length + 2 * blanks sampleString]? = some nul) :=
  replaceBlank_terminated_iff sampleString_stored (by decide)

/-- One blank in a buffer of four bytes whose spare ones are not zero. -/
theorem replaceBlank_unterminated :
    ¬ ∀ string s : List CChar, Stores string s → s.length + 2 * blanks s + 1 ≤ string.length →
      Returns (fun fuel => replaceBlankToANSCIIString fuel string)
        (fun out => ∃ t, Stores out t ∧ t.length = s.length + 2 * blanks s) := by
  intro h
  have hs : Stores [chr ' ', nul, 1, 1] [chr ' '] := ⟨by decide, [1, 1], rfl⟩
  have hbytes := replaceBlank_returns hs (by decide) (by decide)
  obtain ⟨t, hstored, hlen⟩ := hbytes.iff_of_eq.mp (h _ _ hs (by decide))
  exact absurd ((stores_append (by decide)).mp ⟨t, hstored, hlen⟩) (by decide)

end LearningDemo.StringArray
