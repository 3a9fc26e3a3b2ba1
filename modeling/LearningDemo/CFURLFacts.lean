/-
What `nn_encodeString` answers: a text as its unreserved characters and the
escaped UTF-8 of the others, and nothing for units that are no text
(`nnEncodeString_answers`). It never writes behind its buffer.
-/
import LearningDemo.CFURL
import LearningDemo.Lib.Unicode

namespace LearningDemo.CFURL

open Imperative NNAdd Utf16 Unicode

/-! ## The converters -/

section Bytes

set_option maxRecDepth 8000

theorem mark_trailing : ∀ b : UInt8, (b ||| 0x80) &&& 0xBF = b &&& 0x3f ||| 0x80 := uint8_all (by decide)

theorem head_two : ∀ b : UInt8, b.toNat < 32 → b ||| 0xC0 = b &&& 0x1f ||| 0xc0 := uint8_all (by decide)

theorem head_three : ∀ b : UInt8, b.toNat < 16 → b ||| 0xE0 = b &&& 0x0f ||| 0xe0 := uint8_all (by decide)

theorem head_four : ∀ b : UInt8, b.toNat < 8 → b ||| 0xF0 = b &&& 0x07 ||| 0xf0 := uint8_all (by decide)

end Bytes

theorem trailing_toUInt8 (ch : UInt32) :
    ((ch ||| 0x80) &&& 0xBF).toUInt8 = ch.toUInt8 &&& 0x3f ||| 0x80 := by
  rw [← mark_trailing]
  simp

theorem shiftRight_twelve (ch : UInt32) : ch >>> 6 >>> 6 = ch >>> 12 := by
  rw [← UInt32.toNat_inj]
  simp [Nat.shiftRight_add ch.toNat 6 6]

theorem shiftRight_eighteen (ch : UInt32) : ch >>> 12 >>> 6 = ch >>> 18 := by
  rw [← UInt32.toNat_inj]
  simp [Nat.shiftRight_add ch.toNat 12 6]

theorem toUTF8Core_eq {ch : UInt32} {n room : Nat} (hn : utf8BytesToWriteForCharacter ch = n + 1)
    (hroom : n + 1 ≤ room) : toUTF8Core ch room =
      some (((trailingBytes n ch []).1 ||| (firstByteMark[n + 1]?.getD 0).toUInt32).toUInt8 ::
        (trailingBytes n ch []).2) := by
  simp only [toUTF8Core, hn, Nat.succ_ne_zero, if_false, if_neg (Nat.not_lt.mpr hroom), Nat.add_sub_cancel]

theorem shiftRight_lt {ch n : UInt32} (hn : n.toNat < 32) {m : Nat} (h : ch.toNat < m * 2 ^ n.toNat) :
    ((ch >>> n).toUInt8).toNat < m := by
  rw [toNat_shift _ _ hn]
  exact Nat.lt_of_le_of_lt (Nat.mod_le _ _) (Nat.div_lt_of_lt_mul (by rwa [Nat.mul_comm]))

/-- The core of the converter writes what a character is in UTF-8. -/
theorem toUTF8Core_char (c : Char) (room : Nat) (h : c.utf8Size ≤ room) :
    toUTF8Core c.val room = some (String.utf8EncodeChar c) := by
  have hvalid := toNat_valid c
  change c.val.toNat < _ ∨ _ < c.val.toNat ∧ c.val.toNat < _ at hvalid
  rcases Char.utf8Size_eq c with h1 | h2 | h3 | h4
  · have hle := Char.utf8Size_eq_one_iff.mp h1
    have hn : utf8BytesToWriteForCharacter c.val = 0 + 1 := by
      simp only [UInt32.le_iff_toNat_le, UInt32.reduceToNat] at hle
      simp only [utf8BytesToWriteForCharacter, UInt32.lt_iff_toNat_lt, UInt32.reduceToNat]
      rw [if_pos (by omega)]
    rw [String.utf8EncodeChar_eq_singleton h1, toUTF8Core_eq hn (by omega)]
    simp [trailingBytes, firstByteMark]
  · obtain ⟨hlow, hhigh⟩ := Char.utf8Size_eq_two_iff.mp h2
    simp only [UInt32.lt_iff_toNat_lt, UInt32.le_iff_toNat_le, UInt32.reduceToNat] at hlow hhigh
    have hn : utf8BytesToWriteForCharacter c.val = 1 + 1 := by
      simp only [utf8BytesToWriteForCharacter, UInt32.lt_iff_toNat_lt, UInt32.reduceToNat]
      rw [if_neg (by omega), if_pos (by omega)]
    rw [String.utf8EncodeChar_eq_cons_cons h2, toUTF8Core_eq hn (by omega)]
    have hhead := head_two (c.val >>> 6).toUInt8
      (shiftRight_lt (by decide) (show c.val.toNat < 32 * 2 ^ 6 by omega))
    simp only [trailingBytes, trailing_toUInt8]
    rw [← hhead]
    simp [firstByteMark]
  · obtain ⟨hlow, hhigh⟩ := Char.utf8Size_eq_three_iff.mp h3
    simp only [UInt32.lt_iff_toNat_lt, UInt32.le_iff_toNat_le, UInt32.reduceToNat] at hlow hhigh
    have hn : utf8BytesToWriteForCharacter c.val = 2 + 1 := by
      simp only [utf8BytesToWriteForCharacter, UInt32.lt_iff_toNat_lt, UInt32.reduceToNat]
      rw [if_neg (by omega), if_neg (by omega), if_pos (by omega)]
    rw [String.utf8EncodeChar_eq_cons_cons_cons h3, toUTF8Core_eq hn (by omega)]
    have hhead := head_three (c.val >>> 12).toUInt8
      (shiftRight_lt (by decide) (show c.val.toNat < 16 * 2 ^ 12 by omega))
    simp only [trailingBytes, trailing_toUInt8, shiftRight_twelve]
    rw [← hhead]
    simp [firstByteMark]
  · have hlow := Char.utf8Size_eq_four_iff.mp h4
    simp only [UInt32.lt_iff_toNat_lt, UInt32.reduceToNat] at hlow
    have hn : utf8BytesToWriteForCharacter c.val = 3 + 1 := by
      simp only [utf8BytesToWriteForCharacter, UInt32.lt_iff_toNat_lt, UInt32.reduceToNat]
      rw [if_neg (by omega), if_neg (by omega), if_neg (by omega), if_pos (by omega)]
    rw [String.utf8EncodeChar_eq_cons_cons_cons_cons h4, toUTF8Core_eq hn (by omega)]
    have hhead := head_four (c.val >>> 18).toUInt8
      (shiftRight_lt (by decide) (show c.val.toNat < 8 * 2 ^ 18 by omega))
    simp only [trailingBytes, trailing_toUInt8, shiftRight_twelve, shiftRight_eighteen]
    rw [← hhead]
    simp [firstByteMark]

/-! ### One character to bytes -/

variable {u v : UInt16}

theorem val_single (hhigh : isHigh u = false) (hlow : isLow u = false) : (single u).val = u.toUInt32 := by
  rw [← UInt32.toNat_inj]
  exact (single_toNat hhigh hlow).trans (UInt16.toNat_toUInt32 u).symm

theorem val_paired (hhigh : isHigh u = true) (hlow : isLow v = true) :
    (paired u v).val = longCharacter u v := by
  have hu := isHigh_iff.mp hhigh
  have hv := isLow_iff.mp hlow
  rw [← UInt32.toNat_inj]
  refine (paired_toNat hhigh hlow).trans ?_
  unfold longCharacter
  simp only [UInt32.toNat_add, UInt32.toNat_shiftLeft, UInt32.toNat_sub, UInt16.toNat_toUInt32, UInt32.reduceToNat,
    Nat.shiftLeft_eq, Nat.reduceMod, Nat.reducePow]
  omega

theorem toUTF8_single (hhigh : isHigh u = false) (hlow : isLow u = false) (rest : NSString) {room : Nat}
    (hroom : (single u).utf8Size ≤ room) : toUTF8 (u :: rest) room =
      ((toUTF8 rest (room - (single u).utf8Size)).1 + 1,
        String.utf8EncodeChar (single u) ++ (toUTF8 rest (room - (single u).utf8Size)).2) := by
  have hpos := Char.utf8Size_pos (single u)
  have hcore := toUTF8Core_char (single u) room hroom
  have hlength := String.length_utf8EncodeChar (single u)
  rw [toUTF8.eq_def]
  dsimp only
  rw [if_neg (by omega)]
  by_cases hascii : u < 0x80
  · have hsize : (single u).utf8Size = 1 := by
      rw [Char.utf8Size_eq_one_iff, val_single hhigh hlow, UInt32.le_iff_toNat_le, UInt16.toNat_toUInt32]
      exact Nat.le_of_lt_succ (UInt16.lt_iff_toNat_lt.mp hascii)
    rw [if_pos hascii, String.utf8EncodeChar_eq_singleton hsize, hsize, val_single hhigh hlow]
    simp
  · rw [val_single hhigh hlow] at hcore
    rw [if_neg hascii, hhigh, if_neg Bool.false_ne_true, hlow, if_neg Bool.false_ne_true, hcore]
    dsimp only
    rw [hlength]

theorem toUTF8_paired (hhigh : isHigh u = true) (hlow : isLow v = true) (rest : NSString) {room : Nat}
    (hroom : (paired u v).utf8Size ≤ room) : toUTF8 (u :: v :: rest) room =
      ((toUTF8 rest (room - (paired u v).utf8Size)).1 + 2,
        String.utf8EncodeChar (paired u v) ++ (toUTF8 rest (room - (paired u v).utf8Size)).2) := by
  have hpos := Char.utf8Size_pos (paired u v)
  have hcore := toUTF8Core_char (paired u v) room hroom
  have hlength := String.length_utf8EncodeChar (paired u v)
  have hu := isHigh_iff.mp hhigh
  have hascii : ¬ u < 0x80 := by
    simp only [UInt16.lt_iff_toNat_lt, UInt16.reduceToNat]
    omega
  rw [val_paired hhigh hlow] at hcore
  rw [toUTF8.eq_def]
  dsimp only
  rw [if_neg (by omega), if_neg hascii, hhigh, if_pos rfl, hlow, if_pos rfl, hcore]
  dsimp only
  rw [hlength]

theorem unicodeToBytes_surrogate (h : isHigh u = true ∨ isLow u = true) : unicodeToBytes [u] 8 = none := by
  have hascii : ¬ u < 0x80 := by
    rw [isHigh_iff, isLow_iff] at h
    simp only [UInt16.lt_iff_toNat_lt, UInt16.reduceToNat]
    omega
  have hnone : toUTF8 [u] 8 = (0, []) := by
    rw [toUTF8.eq_def]
    dsimp only
    rw [if_neg (by decide), if_neg hascii]
    cases hhigh : isHigh u with
    | true => rfl
    | false =>
      rw [hhigh] at h
      rw [if_neg Bool.false_ne_true, h.resolve_left Bool.false_ne_true, if_pos rfl]
  rw [unicodeToBytes, hnone]
  rfl

theorem unicodeToBytes_single (hhigh : isHigh u = false) (hlow : isLow u = false) :
    unicodeToBytes [u] 8 = some (String.utf8EncodeChar (single u)) := by
  have hsize := Char.utf8Size_le_four (single u)
  rw [unicodeToBytes, toUTF8_single hhigh hlow [] (by omega)]
  simp [toUTF8]

theorem unicodeToBytes_paired (hhigh : isHigh u = true) (hlow : isLow v = true) :
    unicodeToBytes [u, v] 6 = some (String.utf8EncodeChar (paired u v)) := by
  have hsize := Char.utf8Size_le_four (paired u v)
  rw [unicodeToBytes, toUTF8_paired hhigh hlow [] (by omega)]
  simp [toUTF8]

/-! ## The encoded text -/

/-- A letter, a digit, or one of `-._~`. -/
def unreserved (c : Char) : Bool := c.isAlphanum || [45, 46, 95, 126].contains c.toNat

/-- A byte escaped: `%` and its two digits, in upper case. -/
def escape (byte : UInt8) : NSString := 37 :: (Hex.byte byte).map fun digit => .ofNat digit.toUpper.toNat

/-- A character encoded: as it is, or its UTF-8 escaped. -/
def encoded (c : Char) : NSString :=
  if unreserved c then units c else (String.utf8EncodeChar c).flatMap escape

theorem unreserved_lt {c : Char} (h : unreserved c = true) : c.toNat < 128 := by
  rw [unreserved] at h
  delta Char.isAlphanum Char.isAlpha Char.isUpper Char.isLower Char.isDigit at h
  simp only [Bool.or_eq_true, Bool.and_eq_true, decide_eq_true_eq, List.contains_eq_mem, List.mem_cons,
    List.not_mem_nil, or_false, ge_iff_le, UInt32.le_iff_toNat_le] at h
  change _ ∨ c.val.toNat = _ ∨ c.val.toNat = _ ∨ c.val.toNat = _ ∨ c.val.toNat = _ at h
  change c.val.toNat < 128
  simp only [Char.reduceVal, UInt32.reduceToNat] at h
  omega

/-- What an encoded text is made of: `%` and unreserved characters. -/
def Plain (u : UInt16) : Prop := u = 37 ∨ ∃ c, unreserved c = true ∧ units c = [u]

theorem units_unreserved {c : Char} (h : unreserved c = true) : units c = [UInt16.ofNat c.toNat] := by
  have hlt := unreserved_lt h
  exact if_pos (by omega)

theorem plain_lt {u : UInt16} (h : Plain u) : u < 0x80 := by
  rcases h with rfl | ⟨c, hunreserved, hunits⟩
  · decide
  · have hlt := unreserved_lt hunreserved
    rw [units_unreserved hunreserved, List.cons.injEq] at hunits
    rw [← hunits.1, UInt16.lt_iff_toNat_lt, UInt16.toNat_ofNat_of_lt' (by simp only [UInt16.size]; omega)]
    exact hlt

/-- The character of a digit of a byte. -/
def digitChar (digit : UInt8) : Char := Char.ofNat (hexchar digit).toNat

set_option maxRecDepth 8000 in
theorem escape_eq : ∀ b : UInt8, escape b = [37, hexchar (b >>> 4), hexchar (b &&& 0x0f)] := uint8_all (by decide)

set_option maxRecDepth 8000 in
theorem digitChar_unreserved : ∀ b : UInt8,
    (unreserved (digitChar (b >>> 4)) = true ∧ units (digitChar (b >>> 4)) = [hexchar (b >>> 4)]) ∧
      unreserved (digitChar (b &&& 0x0f)) = true ∧ units (digitChar (b &&& 0x0f)) = [hexchar (b &&& 0x0f)] :=
  uint8_all (by decide)

theorem encoded_plain (c : Char) : ∀ u ∈ encoded c, Plain u := by
  intro u hu
  rw [encoded] at hu
  by_cases h : unreserved c = true
  · rw [if_pos h, units_unreserved h, List.mem_singleton] at hu
    exact .inr ⟨c, h, by rw [units_unreserved h, hu]⟩
  · rw [if_neg h] at hu
    obtain ⟨byte, -, hbyte⟩ := List.mem_flatMap.mp hu
    obtain ⟨hhigh, hlow⟩ := digitChar_unreserved byte
    simp only [escape_eq, List.mem_cons, List.not_mem_nil, or_false] at hbyte
    rcases hbyte with rfl | rfl | rfl
    · exact .inl rfl
    · exact .inr ⟨_, hhigh⟩
    · exact .inr ⟨_, hlow⟩

theorem shouldReplace_ascii : ∀ n < 128, shouldReplace none (some reserved) (UInt16.ofNat n) =
    !unreserved (Char.ofNat n) := by decide

theorem shouldReplace_large {u : UInt16} (h : 128 ≤ u.toNat) : shouldReplace none (some reserved) u = true := by
  have hlegal : isURLLegalCharacter u = false := by
    rw [isURLLegalCharacter, if_neg]
    simp only [UInt16.le_iff_toNat_le, UInt16.reduceToNat]
    omega
  rw [shouldReplace, if_pos hlegal]

theorem shouldReplace_single (hhigh : isHigh u = false) (hlow : isLow u = false) :
    shouldReplace none (some reserved) u = !unreserved (single u) := by
  by_cases hlt : u.toNat < 128
  · have hascii := shouldReplace_ascii u.toNat hlt
    rwa [UInt16.ofNat_toNat] at hascii
  · rw [shouldReplace_large (Nat.le_of_not_lt hlt)]
    cases hunreserved : unreserved (single u) with
    | false => rfl
    | true =>
      have hsmall := unreserved_lt hunreserved
      rw [single_toNat hhigh hlow] at hsmall
      exact absurd hsmall hlt

/-! ## The buffer -/

theorem put_ok {s : Escaping} (h : s.charBuffer.length < kCharBufferMax) (ch : UInt16) :
    s.put ch = .ok { s with charBuffer := s.charBuffer ++ [ch] } := if_pos h

theorem putEscapes_ok (bytes : List UInt8) {s : Escaping}
    (h : s.charBuffer.length + 3 * bytes.length ≤ kCharBufferMax) :
    s.putEscapes bytes = .ok { s with charBuffer := s.charBuffer ++ bytes.flatMap escape } := by
  induction bytes generalizing s with
  | nil => simp [Escaping.putEscapes]
  | cons byte bytes ih =>
    rw [List.length_cons] at h
    rw [Escaping.putEscapes, put_ok (by omega), ok_bind,
      put_ok (by simp only [List.length_append, List.length_singleton]; omega), ok_bind,
      put_ok (by simp only [List.length_append, List.length_singleton]; omega), ok_bind,
      ih (by simp only [List.length_append, List.length_singleton]; omega)]
    simp [escape_eq]

/-- Where the loop stands behind `front`: `written` is written, and the buffer has room. -/
structure Escaping.Behind (s : Escaping) (front written : NSString) : Prop where
  room : s.charBuffer.length < kCharBufferMax
  fresh : s.newString = none → s.charBuffer = [] ∧ front = written
  started : ∀ newString, s.newString = some newString → newString ++ s.charBuffer = written

variable {s : Escaping} {front written rest : NSString}

theorem prepare_behind (h : s.Behind front written) : ∃ newString charBuffer,
    s.prepare front = { newString := some newString, charBuffer := charBuffer } ∧
      newString ++ charBuffer = written ∧ charBuffer.length + 24 ≤ kCharBufferMax := by
  obtain ⟨newString, charBuffer⟩ := s
  have hmax : kCharBufferMax = 4096 := rfl
  cases newString with
  | none =>
    obtain ⟨hbuffer, hfront⟩ := h.fresh rfl
    dsimp only at hbuffer
    subst hbuffer
    exact ⟨front, [], rfl, by rw [List.append_nil, hfront], by decide⟩
  | some newString =>
    have hwritten := h.started newString rfl
    dsimp only at hwritten
    by_cases hfull : charBuffer.length ≥ kCharBufferMax - 24
    · refine ⟨newString ++ charBuffer, [], ?_, by rw [List.append_nil, hwritten], by decide⟩
      dsimp only [Escaping.prepare]
      rw [if_pos hfull]
      rfl
    · refine ⟨newString, charBuffer, ?_, hwritten, by omega⟩
      dsimp only [Escaping.prepare]
      rw [if_neg hfull]

theorem putEscapes_behind (h : s.Behind front written) (bytes : List UInt8) (hbytes : bytes.length ≤ 4)
    (front' : NSString) : ∃ s', (s.prepare front).putEscapes bytes = .ok s' ∧
      s'.Behind front' (written ++ bytes.flatMap escape) := by
  obtain ⟨newString, charBuffer, hprepare, hwritten, hroom⟩ := prepare_behind h
  have hlength : (bytes.flatMap escape).length = bytes.length * 3 := by
    induction bytes with
    | nil => rfl
    | cons byte bytes ih =>
      rw [List.flatMap_cons, List.length_append, ih (by rw [List.length_cons] at hbytes; omega), List.length_cons]
      simp only [escape_eq, List.length_cons, List.length_nil]
      omega
  rw [hprepare, putEscapes_ok bytes (by dsimp only; omega)]
  refine ⟨_, rfl, ?_, nofun, fun newString' hsome => ?_⟩
  · rw [List.length_append, hlength]
    dsimp only
    omega
  · obtain rfl := Option.some.inj hsome
    rw [← List.append_assoc, hwritten]

/-! ## The loop -/

theorem escapeLoop_kept {u : UInt16} (h : s.Behind front written)
    (hkept : shouldReplace none (some reserved) u = false) (rest : NSString) :
    ∃ s', escapeLoop none (some reserved) front (u :: rest) s =
      escapeLoop none (some reserved) (front ++ [u]) rest s' ∧ s'.Behind (front ++ [u]) (written ++ [u]) := by
  obtain ⟨newString, charBuffer⟩ := s
  have hroom := h.room
  rw [escapeLoop.eq_def]
  dsimp only
  rw [hkept, if_neg Bool.false_ne_true]
  cases newString with
  | none =>
    obtain ⟨hbuffer, hfront⟩ := h.fresh rfl
    exact ⟨_, rfl, hroom, fun _ => ⟨hbuffer, by rw [hfront]⟩, nofun⟩
  | some newString =>
    have hwritten := h.started newString rfl
    dsimp only at hwritten hroom
    rw [put_ok (by exact hroom), ok_bind]
    dsimp only
    refine ⟨_, rfl, ?_⟩
    by_cases hfull : (charBuffer ++ [u]).length = kCharBufferMax
    · rw [if_pos hfull]
      refine ⟨(by decide : 0 < 4096), nofun, fun newString' hsome => ?_⟩
      obtain rfl := Option.some.inj hsome
      rw [← hwritten]
      simp [Escaping.flush]
    · rw [if_neg hfull]
      rw [List.length_append, List.length_singleton] at hfull
      refine ⟨?_, nofun, fun newString' hsome => ?_⟩
      · rw [List.length_append, List.length_singleton]
        omega
      · obtain rfl := Option.some.inj hsome
        rw [← hwritten, List.append_assoc]

theorem escapeLoop_single {u : UInt16} (h : s.Behind front written) (hhigh : isHigh u = false) (hlow : isLow u = false)
    (hreplace : shouldReplace none (some reserved) u = true) (rest : NSString) :
    ∃ s', escapeLoop none (some reserved) front (u :: rest) s =
      escapeLoop none (some reserved) (front ++ [u]) rest s' ∧
      s'.Behind (front ++ [u]) (written ++ (String.utf8EncodeChar (single u)).flatMap escape) := by
  obtain ⟨s', hput, hbehind⟩ := putEscapes_behind h (String.utf8EncodeChar (single u))
    (by rw [String.length_utf8EncodeChar]; exact Char.utf8Size_le_four _) (front ++ [u])
  refine ⟨s', ?_, hbehind⟩
  rw [escapeLoop.eq_def]
  dsimp only
  rw [hreplace, if_pos rfl, unicodeToBytes_single hhigh hlow]
  dsimp only
  rw [hput, ok_bind]

theorem escapeLoop_paired {u v : UInt16} (h : s.Behind front written) (hhigh : isHigh u = true) (hlow : isLow v = true)
    (rest : NSString) :
    ∃ s', escapeLoop none (some reserved) front (u :: v :: rest) s =
      escapeLoop none (some reserved) (front ++ [u, v]) rest s' ∧
      s'.Behind (front ++ [u, v]) (written ++ (String.utf8EncodeChar (paired u v)).flatMap escape) := by
  obtain ⟨s', hput, hbehind⟩ := putEscapes_behind h (String.utf8EncodeChar (paired u v))
    (by rw [String.length_utf8EncodeChar]; exact Char.utf8Size_le_four _) (front ++ [u, v])
  have hreplace : shouldReplace none (some reserved) u = true := by
    have hu := isHigh_iff.mp hhigh
    exact shouldReplace_large (by omega)
  refine ⟨s', ?_, hbehind⟩
  rw [escapeLoop.eq_def]
  dsimp only
  rw [hreplace, if_pos rfl, unicodeToBytes_surrogate (.inl hhigh)]
  dsimp only
  rw [hhigh, hlow, Bool.and_self, if_pos rfl, unicodeToBytes_paired hhigh hlow]
  dsimp only
  rw [hput, ok_bind]

theorem escapeLoop_surrogate {u : UInt16} (hu : isHigh u = true ∨ isLow u = true)
    (hrest : ∀ v rest', rest = v :: rest' → (isHigh u && isLow v) = false) (front : NSString) (s : Escaping) :
    escapeLoop none (some reserved) front (u :: rest) s = .ok none := by
  have hreplace : shouldReplace none (some reserved) u = true := by
    have hu' := hu
    rw [isHigh_iff, isLow_iff] at hu'
    exact shouldReplace_large (by omega)
  rw [escapeLoop.eq_def]
  dsimp only
  rw [hreplace, if_pos rfl, unicodeToBytes_surrogate hu]
  dsimp only
  cases rest with
  | nil => rfl
  | cons v rest' =>
    dsimp only
    rw [hrest v rest' rfl, if_neg Bool.false_ne_true]
    rfl

theorem encoded_kept {u : UInt16} (hhigh : isHigh u = false) (hlow : isLow u = false)
    (hkept : shouldReplace none (some reserved) u = false) : encoded (single u) = [u] := by
  rw [shouldReplace_single hhigh hlow, Bool.not_eq_false'] at hkept
  rw [encoded, if_pos hkept, units_single hhigh hlow]

theorem encoded_replaced {u : UInt16} (hhigh : isHigh u = false) (hlow : isLow u = false)
    (hreplace : shouldReplace none (some reserved) u = true) :
    encoded (single u) = (String.utf8EncodeChar (single u)).flatMap escape := by
  rw [shouldReplace_single hhigh hlow, Bool.not_eq_true'] at hreplace
  rw [encoded, if_neg (by rw [hreplace]; exact Bool.false_ne_true)]

theorem encoded_paired {u v : UInt16} (hhigh : isHigh u = true) (hlow : isLow v = true) :
    encoded (paired u v) = (String.utf8EncodeChar (paired u v)).flatMap escape := by
  rw [encoded, if_neg]
  intro hunreserved
  have hlt := unreserved_lt hunreserved
  rw [paired_toNat hhigh hlow] at hlt
  omega

/-- What the loop has written at its end, where the units are a text. -/
theorem escapeLoop_text (rest : NSString) {front written : NSString} {s : Escaping} (h : s.Behind front written) :
    match text rest with
    | none => escapeLoop none (some reserved) front rest s = .ok none
    | some cs => ∃ s', escapeLoop none (some reserved) front rest s = .ok (some s') ∧
        s'.Behind (front ++ rest) (written ++ cs.flatMap encoded) := by
  -- along the characters of the rest: each is kept or replaced as a whole
  fun_induction text rest generalizing front written s with
  | case1 => exact ⟨s, by rw [escapeLoop.eq_def]; rfl, by simpa using h⟩
  | case2 u hhigh => exact escapeLoop_surrogate (.inl hhigh) (fun _ _ heq => by cases heq) front s
  | case3 u hhigh v rest hlow ih =>
    obtain ⟨s', hloop, hbehind⟩ := escapeLoop_paired h hhigh hlow rest
    have hrest := ih hbehind
    rw [hloop]
    cases htext : text rest with
    | none => rwa [htext] at hrest
    | some cs =>
      rw [htext] at hrest
      simpa [encoded_paired hhigh hlow] using hrest
  | case4 u hhigh v rest hlow =>
    refine escapeLoop_surrogate (.inl hhigh) (fun v' rest' heq => ?_) front s
    obtain ⟨rfl, rfl⟩ := List.cons.inj heq
    rw [Bool.not_eq_true] at hlow
    rw [hlow, Bool.and_false]
  | case5 u rest hhigh hlow =>
    rw [Bool.not_eq_true] at hhigh
    exact escapeLoop_surrogate (.inr hlow) (fun _ _ _ => by rw [hhigh, Bool.false_and]) front s
  | case6 u rest hhigh hlow ih =>
    rw [Bool.not_eq_true] at hhigh hlow
    have hchar : ∃ s', escapeLoop none (some reserved) front (u :: rest) s =
        escapeLoop none (some reserved) (front ++ [u]) rest s' ∧
        s'.Behind (front ++ [u]) (written ++ encoded (single u)) := by
      cases hreplace : shouldReplace none (some reserved) u with
      | false =>
        rw [encoded_kept hhigh hlow hreplace]
        exact escapeLoop_kept h hreplace rest
      | true =>
        rw [encoded_replaced hhigh hlow hreplace]
        exact escapeLoop_single h hhigh hlow hreplace rest
    obtain ⟨s', hloop, hbehind⟩ := hchar
    have hrest := ih hbehind
    rw [hloop]
    cases htext : text rest with
    | none => rwa [htext] at hrest
    | some cs =>
      rw [htext] at hrest
      simpa using hrest

/-- A text is encoded character by character; what is no text is refused. -/
theorem nnEncodeString_text (s : NSString) :
    nnEncodeString s = .ok ((text s).map fun cs => cs.flatMap encoded) := by
  rw [nnEncodeString, createStringByAddingPercentEscapes]
  by_cases hempty : s.length = 0
  · obtain rfl := List.length_eq_zero_iff.mp hempty
    rfl
  rw [if_neg hempty]
  have hstart : Escaping.Behind { newString := none, charBuffer := [] } [] [] :=
    ⟨by decide, fun _ => ⟨rfl, rfl⟩, nofun⟩
  have hloop := escapeLoop_text s hstart
  cases htext : text s with
  | none =>
    rw [htext] at hloop
    rw [hloop, ok_bind]
    rfl
  | some cs =>
    rw [htext] at hloop
    obtain ⟨⟨newString, charBuffer⟩, hloop, hbehind⟩ := hloop
    rw [hloop, ok_bind]
    dsimp only
    cases newString with
    | none =>
      obtain ⟨-, hwritten⟩ := hbehind.fresh rfl
      simpa using hwritten
    | some newString =>
      have hwritten := hbehind.started newString rfl
      dsimp only at hwritten ⊢
      cases charBuffer with
      | nil => simpa using hwritten
      | cons ch charBuffer => simpa using hwritten

/-- Every string has an answer: there is none exactly for what is no text, and
what there is holds only `%` and unreserved characters. -/
theorem nnEncodeString_answers (s : NSString) :
    (text s = none ∧ nnEncodeString s = .ok none) ∨
      ∃ cs : List Char, cs.flatMap units = s ∧ nnEncodeString s = .ok (some (cs.flatMap encoded)) ∧
        ∀ u ∈ cs.flatMap encoded, Plain u := by
  rw [nnEncodeString_text]
  cases htext : text s with
  | none => exact .inl ⟨rfl, rfl⟩
  | some cs =>
    refine .inr ⟨cs, text_eq_some.mp htext, rfl, fun u hu => ?_⟩
    obtain ⟨c, -, hc⟩ := List.mem_flatMap.mp hu
    exact encoded_plain c u hc

/-- `ä b`. -/
theorem nnEncodeString_answers_umlaut : ∃ cs : List Char, cs.flatMap units = [228, 32, 98] ∧
    cs.flatMap encoded = [37, 67, 51, 37, 65, 52, 37, 50, 48, 98] := by
  have hcode : nnEncodeString [228, 32, 98] = .ok (some [37, 67, 51, 37, 65, 52, 37, 50, 48, 98]) := by rfl
  rcases nnEncodeString_answers [228, 32, 98] with ⟨-, hnone⟩ | ⟨cs, hunits, hsome, -⟩
  · rw [hcode] at hnone
    cases hnone
  · rw [hcode] at hsome
    exact ⟨cs, hunits, (Option.some.inj (Except.ok.inj hsome)).symm⟩

end LearningDemo.CFURL
