/-
What `nn_encodeString` has written is read again: `UnescapeAllWithUTF8` gives
back the string, but for a byte order mark in front (`nnEncodeString_undone`),
and two strings never have one encoding.
-/
import LearningDemo.CFURLFacts

namespace LearningDemo.CFURL

open Imperative NNAdd Utf16 Unicode

/-! ## Bytes and digits -/

section Bytes

set_option maxRecDepth 8000

theorem and_of_trailing : ∀ b : UInt8, 128 ≤ b.toNat ∧ b.toNat < 192 → b &&& 0xC0 = 0x80 :=
  uint8_all (by decide)

theorem hexvalues_hexchar : ∀ b : UInt8,
    (hexvalues (hexchar (b >>> 4)).toUInt8 ||| hexvalues (hexchar (b &&& 0x0f)).toUInt8) &&& 0x80 = 0 ∧
      (hexvalues (hexchar (b >>> 4)).toUInt8 <<< 4) + hexvalues (hexchar (b &&& 0x0f)).toUInt8 = b :=
  uint8_all (by decide)

end Bytes

variable {c : Char}

/-! ## Decoding -/

/-- The second byte is one that may follow the head. -/
structure Follows (head second : UInt8) : Prop where
  e0 : head.toNat = 0xE0 → 0xA0 ≤ second.toNat
  ed : head.toNat = 0xED → second.toNat ≤ 0x9F
  f0 : head.toNat = 0xF0 → 0x90 ≤ second.toNat
  f4 : head.toNat = 0xF4 → second.toNat ≤ 0x8F

theorem isLegalUTF8_ok {head : UInt8} {trailing : List UInt8} (hlength : trailing.length ≤ 3)
    (htrailing : ∀ byte ∈ trailing, 128 ≤ byte.toNat ∧ byte.toNat < 192)
    (hhead : head.toNat < 0x80 ∨ 0xC2 ≤ head.toNat ∧ head.toNat ≤ 0xF4)
    (hsecond : ∀ second ∈ trailing.head?, Follows head second) : isLegalUTF8 head trailing = true := by
  have hany : (trailing.any fun byte => byte &&& 0xC0 != 0x80) = false := by
    rw [List.any_eq_false]
    intro byte hbyte
    rw [and_of_trailing byte (htrailing byte hbyte)]
    decide
  have hrange : ((0x80 ≤ head && head < 0xC2) || 0xF4 < head) = false := by
    rw [← Bool.not_eq_true]
    simp only [Bool.or_eq_true, Bool.and_eq_true, decide_eq_true_eq, UInt8.le_iff_toNat_le, UInt8.lt_iff_toNat_lt,
      UInt8.reduceToNat]
    omega
  rw [isLegalUTF8.eq_def]
  rw [if_neg (by omega), hany, if_neg Bool.false_ne_true, hrange, if_neg Bool.false_ne_true]
  cases trailing with
  | nil => rfl
  | cons second trailing =>
    obtain ⟨he0, hed, hf0, hf4⟩ := hsecond second rfl
    dsimp only
    rw [Bool.not_eq_true', ← Bool.not_eq_true]
    simp only [Bool.or_eq_true, Bool.and_eq_true, decide_eq_true_eq, beq_iff_eq, ← UInt8.toNat_inj,
      UInt8.lt_iff_toNat_lt, UInt8.reduceToNat]
    omega

theorem fromUTF8Core_val {source : List UInt8}
    (h : source.foldl (fun (ch : UInt32) byte => (ch <<< 6) + byte.toUInt32) 0 -
      (offsetsFromUTF8[source.length - 1]?.getD 0) = c.val) : fromUTF8Core source = some (units c) := by
  have hvalid := toNat_valid c
  rw [fromUTF8Core, h]
  dsimp only
  simp only [UInt32.le_iff_toNat_le, GT.gt, UInt32.lt_iff_toNat_lt, UInt32.reduceToNat, Char.toNat_val]
  by_cases hlt : c.toNat < 0x10000
  · rw [if_pos (by omega), if_neg (by omega), units, if_pos hlt]
    rfl
  · rw [if_neg (by omega), if_neg (by omega), units, if_neg hlt]
    have hsub : (c.val - 0x10000).toNat = c.toNat - 0x10000 := by
      rw [UInt32.toNat_sub_of_le]
      · rfl
      · simp only [UInt32.le_iff_toNat_le, UInt32.reduceToNat, Char.toNat_val]
        omega
    have hand : (c.toNat - 0x10000) &&& 1023 = (c.toNat - 0x10000) % 1024 := Nat.and_two_pow_sub_one_eq_mod _ 10
    refine congrArg some (congrArg₂ _ ?_ (congrArg₂ _ ?_ rfl))
    · rw [← UInt16.toNat_inj, UInt32.toNat_toUInt16, UInt32.toNat_add, UInt32.toNat_shiftRight, hsub]
      simp only [UInt32.reduceToNat, Nat.reduceMod, Nat.shiftRight_eq_div_pow, Nat.reducePow, UInt16.toNat_ofNat']
      omega
    · rw [← UInt16.toNat_inj, UInt32.toNat_toUInt16, UInt32.toNat_add, UInt32.toNat_and, hsub]
      simp only [UInt32.reduceToNat, hand, Nat.reducePow, UInt16.toNat_ofNat']
      omega

theorem decodeWith_ok {head : UInt8} {trailing : List UInt8} (hlegal : isLegalUTF8 head trailing = true)
    (hcore : fromUTF8Core (head :: trailing) = some (units c)) (rest : Option NSString) :
    decodeWith head trailing rest = rest.map (units c ++ ·) := by
  cases rest with
  | none => simp only [decodeWith, if_pos hlegal, hcore, Option.map_none]
  | some rest => simp only [decodeWith, if_pos hlegal, hcore, Option.map_some]

theorem trailingBytesForUTF8_eq (head : UInt8) : trailingBytesForUTF8 head =
    if head.toNat < 0xC0 then 0 else if head.toNat < 0xE0 then 1 else if head.toNat < 0xF0 then 2
    else if head.toNat < 0xF8 then 3 else if head.toNat < 0xFC then 4 else 5 := by
  simp only [trailingBytesForUTF8, UInt8.lt_iff_toNat_lt, UInt8.reduceToNat]

/-- The decoder reads a character from its UTF-8, whatever follows. -/
theorem fromUTF8_char (c : Char) (bytes : List UInt8) :
    fromUTF8 (String.utf8EncodeChar c ++ bytes) = (fromUTF8 bytes).map (units c ++ ·) := by
  have hvalid := toNat_valid c
  rcases Char.utf8Size_eq c with h1 | h2 | h3 | h4
  · obtain ⟨b0, hbytes, h0, hlt⟩ := utf8_one h1
    have htrailing : trailingBytesForUTF8 b0 = 0 := by rw [trailingBytesForUTF8_eq, if_pos (by omega)]
    have hmark : b0 ≠ 0xA9 := by
      rw [Ne, ← UInt8.toNat_inj]
      simp only [UInt8.reduceToNat]
      omega
    have hcore : fromUTF8Core [b0] = some (units c) := fromUTF8Core_val (by
      rw [← UInt32.toNat_inj]
      simp [offsetsFromUTF8]
      omega)
    rw [hbytes, List.singleton_append, fromUTF8.eq_def]
    simp only [htrailing, if_neg hmark]
    refine decodeWith_ok (isLegalUTF8_ok (by simp) ?_ (.inl (by omega)) ?_) hcore _
    · simp
    · simp
  · obtain ⟨b0, b1, hbytes, h0, h1, hlow, hhigh⟩ := utf8_two h2
    have htrailing : trailingBytesForUTF8 b0 = 1 := by
      rw [trailingBytesForUTF8_eq, if_neg (by omega), if_pos (by omega)]
    have hcore : fromUTF8Core [b0, b1] = some (units c) := fromUTF8Core_val (by
      rw [← UInt32.toNat_inj]
      simp [offsetsFromUTF8, UInt32.toNat_sub, Nat.shiftLeft_eq]
      omega)
    rw [hbytes, List.cons_append, List.singleton_append, fromUTF8.eq_def]
    simp only [htrailing]
    refine decodeWith_ok (isLegalUTF8_ok (by simp) ?_ (.inr (by omega)) ?_) hcore _
    · simp only [List.mem_singleton, forall_eq]
      omega
    · simp only [List.head?_cons, Option.mem_some_iff, forall_eq']
      constructor <;> omega
  · obtain ⟨b0, b1, b2, hbytes, h0, h1, h2, hlow, hhigh⟩ := utf8_three h3
    have htrailing : trailingBytesForUTF8 b0 = 2 := by
      rw [trailingBytesForUTF8_eq, if_neg (by omega), if_neg (by omega), if_pos (by omega)]
    have hcore : fromUTF8Core [b0, b1, b2] = some (units c) := fromUTF8Core_val (by
      rw [← UInt32.toNat_inj]
      simp [offsetsFromUTF8, UInt32.toNat_sub, Nat.shiftLeft_eq]
      omega)
    rw [hbytes, List.cons_append, List.cons_append, List.singleton_append, fromUTF8.eq_def]
    simp only [htrailing]
    refine decodeWith_ok (isLegalUTF8_ok (by simp) ?_ (.inr (by omega)) ?_) hcore _
    · simp only [List.mem_cons, List.not_mem_nil, or_false, forall_eq_or_imp, forall_eq]
      omega
    · simp only [List.head?_cons, Option.mem_some_iff, forall_eq']
      constructor <;> omega
  · obtain ⟨b0, b1, b2, b3, hbytes, h0, h1, h2, h3, hlow⟩ := utf8_four h4
    have htrailing : trailingBytesForUTF8 b0 = 3 := by
      rw [trailingBytesForUTF8_eq, if_neg (by omega), if_neg (by omega), if_neg (by omega), if_pos (by omega)]
    have hcore : fromUTF8Core [b0, b1, b2, b3] = some (units c) := fromUTF8Core_val (by
      rw [← UInt32.toNat_inj]
      simp [offsetsFromUTF8, UInt32.toNat_sub, Nat.shiftLeft_eq]
      omega)
    rw [hbytes, List.cons_append, List.cons_append, List.cons_append, List.singleton_append, fromUTF8.eq_def]
    simp only [htrailing]
    refine decodeWith_ok (isLegalUTF8_ok (by simp) ?_ (.inr (by omega)) ?_) hcore _
    · simp only [List.mem_cons, List.not_mem_nil, or_false, forall_eq_or_imp, forall_eq]
      omega
    · simp only [List.head?_cons, Option.mem_some_iff, forall_eq']
      constructor <;> omega

theorem fromUTF8_text (cs : List Char) : fromUTF8 (cs.flatMap String.utf8EncodeChar) = some (cs.flatMap units) := by
  induction cs with
  | nil => rw [List.flatMap_nil, fromUTF8]; rfl
  | cons c cs ih => rw [List.flatMap_cons, fromUTF8_char, ih, Option.map_some, List.flatMap_cons]

theorem utf8_ascii {b : UInt8} (h : b.toNat < 128) :
    String.utf8EncodeChar (Char.ofNat b.toNat) = [b] ∧ units (Char.ofNat b.toNat) = [b.toUInt16] := by
  have hnat : (Char.ofNat b.toNat).toNat = b.toNat := toNat_ofNat_of_valid (.inl (by omega))
  have hsize : (Char.ofNat b.toNat).utf8Size = 1 := by
    rw [Char.utf8Size_eq_one_iff, UInt32.le_iff_toNat_le, Char.toNat_val, hnat]
    exact Nat.le_of_lt_succ h
  obtain ⟨b0, hbytes, h0, -⟩ := utf8_one hsize
  refine ⟨?_, ?_⟩
  · rw [hbytes, UInt8.toNat_inj.mp (h0.trans hnat)]
  · have hunit : UInt16.ofNat b.toNat = b.toUInt16 := by
      rw [← UInt16.toNat_inj, UInt16.toNat_ofNat_of_lt' (by simp only [UInt16.size]; omega), UInt8.toNat_toUInt16]
    rw [units, hnat, if_pos (by omega), hunit]

theorem fromUTF8_ascii {bytes : List UInt8} (h : ∀ byte ∈ bytes, byte < 0x80) :
    fromUTF8 bytes = some (bytes.map (·.toUInt16)) := by
  induction bytes with
  | nil => rw [fromUTF8]; rfl
  | cons byte bytes ih =>
    rw [List.forall_mem_cons] at h
    obtain ⟨hbytes, hunits⟩ := utf8_ascii (UInt8.lt_iff_toNat_lt.mp h.1)
    have hchar := fromUTF8_char (Char.ofNat byte.toNat) bytes
    rw [hbytes, hunits, ih h.2] at hchar
    exact hchar

/-- The short way for ASCII makes no difference. -/
theorem createWithBytes_eq (bytes : List UInt8) : createWithBytes bytes =
    fromUTF8 (if bytes.take 3 = [0xEF, 0xBB, 0xBF] then bytes.drop 3 else bytes) := by
  rw [createWithBytes]
  generalize (if bytes.take 3 = [0xEF, 0xBB, 0xBF] then bytes.drop 3 else bytes) = bytes
  by_cases hall : bytes.all (· < 0x80) = true
  · rw [if_pos hall, fromUTF8_ascii]
    simpa using hall
  · rw [if_neg hall]

/-- The three bytes in front are those of a byte order mark and of nothing else. -/
theorem mark_iff {cs : List Char} :
    (cs.flatMap String.utf8EncodeChar).take 3 = [0xEF, 0xBB, 0xBF] ↔ cs.head? = some (Char.ofNat 0xFEFF) := by
  cases cs with
  | nil => simp
  | cons c cs =>
    rw [List.flatMap_cons, List.head?_cons, Option.some.injEq]
    constructor
    · intro htake
      have hhead : ∀ b0 bytes, String.utf8EncodeChar c = b0 :: bytes → b0.toNat = 0xEF := by
        intro b0 bytes heq
        rw [heq, List.cons_append, List.take_succ_cons] at htake
        rw [(List.cons.inj htake).1]
        rfl
      rcases Char.utf8Size_eq c with h1 | h2 | h3 | h4
      · obtain ⟨b0, hbytes, h0, hlt⟩ := utf8_one h1
        have := hhead b0 _ hbytes
        omega
      · obtain ⟨b0, b1, hbytes, h0, -, -, hlt⟩ := utf8_two h2
        have := hhead b0 _ hbytes
        omega
      · obtain ⟨b0, b1, b2, hbytes, h0, h1, h2, -, -⟩ := utf8_three h3
        rw [hbytes] at htake
        obtain ⟨e0, e1, e2⟩ : b0 = 0xEF ∧ b1 = 0xBB ∧ b2 = 0xBF := by simpa using htake
        rw [e0] at h0
        rw [e1] at h1
        rw [e2] at h2
        simp only [UInt8.reduceToNat] at h0 h1 h2
        rw [← Char.ofNat_toNat c]
        exact congrArg Char.ofNat (by omega)
      · obtain ⟨b0, b1, b2, b3, hbytes, h0, -⟩ := utf8_four h4
        have := hhead b0 _ hbytes
        omega
    · rintro rfl
      rfl

theorem createWithBytes_text (cs : List Char) : createWithBytes (cs.flatMap String.utf8EncodeChar) =
    some (if cs.head? = some (Char.ofNat 0xFEFF) then cs.tail.flatMap units else cs.flatMap units) := by
  rw [createWithBytes_eq]
  by_cases hmark : cs.head? = some (Char.ofNat 0xFEFF)
  · obtain ⟨cs', rfl⟩ := List.head?_eq_some_iff.mp hmark
    rw [if_pos (mark_iff.mpr hmark), if_pos hmark, List.flatMap_cons, List.tail_cons]
    exact fromUTF8_text cs'
  · rw [if_neg (mt mark_iff.mp hmark), if_neg hmark, fromUTF8_text]

/-! ## The round trip -/

theorem unescapeBytes_escape (byte : UInt8) (rest : List UInt8) :
    unescapeBytes ((escape byte).map (·.toUInt8) ++ rest) = (unescapeBytes rest).map (byte :: ·) := by
  obtain ⟨hdigits, hbyte⟩ := hexvalues_hexchar byte
  simp only [escape_eq, List.map_cons, List.map_nil, List.cons_append, List.nil_append]
  rw [unescapeBytes.eq_def]
  dsimp only
  rw [if_pos (by rfl), if_pos hdigits, hbyte]

theorem unescapeBytes_escapes (bytes rest : List UInt8) :
    unescapeBytes ((bytes.flatMap escape).map (·.toUInt8) ++ rest) = (unescapeBytes rest).map (bytes ++ ·) := by
  induction bytes with
  | nil => simp
  | cons byte bytes ih =>
    rw [List.flatMap_cons, List.map_append, List.append_assoc, unescapeBytes_escape, ih, Option.map_map]
    rfl

theorem unreserved_ne_percent (h : unreserved c = true) : c.toNat ≠ 37 := by
  intro hpercent
  rw [← Char.ofNat_toNat c, hpercent] at h
  exact absurd h (by decide)

/-- What a character was encoded as is its UTF-8 again, whatever follows. -/
theorem unescapeBytes_encoded (c : Char) (rest : List UInt8) :
    unescapeBytes ((encoded c).map (·.toUInt8) ++ rest) =
      (unescapeBytes rest).map (String.utf8EncodeChar c ++ ·) := by
  by_cases h : unreserved c = true
  · have hlt := unreserved_lt h
    have hsize : c.utf8Size = 1 := by
      rw [Char.utf8Size_eq_one_iff, UInt32.le_iff_toNat_le, Char.toNat_val]
      exact Nat.le_of_lt_succ hlt
    obtain ⟨b0, hbytes, h0, -⟩ := utf8_one hsize
    have hunit : (UInt16.ofNat c.toNat).toUInt8 = b0 := by
      rw [← UInt8.toNat_inj, UInt16.toNat_toUInt8, UInt16.toNat_ofNat_of_lt' (by simp only [UInt16.size]; omega), h0]
      exact Nat.mod_eq_of_lt (by omega)
    have hpercent : b0 ≠ 37 := by
      rintro rfl
      exact unreserved_ne_percent h h0.symm
    rw [encoded, if_pos h, units_unreserved h, List.map_singleton, hunit, hbytes, List.singleton_append,
      unescapeBytes.eq_def]
    dsimp only
    rw [if_neg hpercent]
    rfl
  · rw [encoded, if_neg h, unescapeBytes_escapes]

theorem unescapeBytes_text (cs : List Char) :
    unescapeBytes ((cs.flatMap encoded).map (·.toUInt8)) = some (cs.flatMap String.utf8EncodeChar) := by
  induction cs with
  | nil => rfl
  | cons c cs ih =>
    rw [List.flatMap_cons, List.map_append, unescapeBytes_encoded, ih, Option.map_some, List.flatMap_cons]

theorem toUTF8_ascii {s : NSString} (h : ∀ u ∈ s, u < 0x80) {room : Nat} (hroom : s.length ≤ room) :
    toUTF8 s room = (s.length, s.map (·.toUInt8)) := by
  induction s generalizing room with
  | nil => rw [toUTF8]; rfl
  | cons u s ih =>
    rw [List.forall_mem_cons] at h
    rw [List.length_cons] at hroom
    rw [toUTF8.eq_def]
    dsimp only
    rw [if_neg (by omega), if_pos h.1, ih h.2 (by omega)]
    rfl

theorem unescape_encoded (cs : List Char) : createStringByReplacingPercentEscapes (cs.flatMap encoded) =
    createWithBytes (cs.flatMap String.utf8EncodeChar) := by
  have hascii : ∀ u ∈ cs.flatMap encoded, u < 0x80 := by
    intro u hu
    obtain ⟨c, -, hc⟩ := List.mem_flatMap.mp hu
    exact plain_lt (encoded_plain c u hc)
  have hbytes := unescapeBytes_text cs
  rw [createStringByReplacingPercentEscapes, unescapeAllWithUTF8, toUTF8_ascii hascii (by omega)]
  dsimp only
  by_cases hempty : (cs.flatMap encoded).length = 0
  · rw [if_pos hempty]
    rw [List.length_eq_zero_iff] at hempty
    rw [hempty] at hbytes ⊢
    rw [← Option.some.inj hbytes]
    rfl
  · rw [if_neg hempty, if_neg hempty, hbytes, Option.bind_some]

theorem head_units {cs : List Char} :
    (cs.flatMap units).head? = some 0xFEFF ↔ cs.head? = some (Char.ofNat 0xFEFF) := by
  cases cs with
  | nil => simp
  | cons c cs =>
    rw [List.flatMap_cons, List.head?_cons, Option.some.injEq]
    constructor
    · intro hhead
      rcases units_cases c with ⟨u, hunits, -, -, hc⟩ | ⟨u, v, hunits, hhigh, -, -⟩
      · rw [hunits, List.singleton_append, List.head?_cons, Option.some.injEq] at hhead
        rw [hc, hhead]
        rfl
      · rw [hunits, List.cons_append, List.head?_cons, Option.some.injEq] at hhead
        rw [hhead] at hhigh
        exact absurd hhigh (by decide)
    · rintro rfl
      rfl

/-- What `nn_encodeString` has made is made a string again, but for a byte order mark in front. -/
theorem nnEncodeString_undone {s e : NSString} (h : nnEncodeString s = .ok (some e)) :
    createStringByReplacingPercentEscapes e = some (if s.head? = some 0xFEFF then s.tail else s) := by
  rw [nnEncodeString_text, Except.ok.injEq, Option.map_eq_some_iff] at h
  obtain ⟨cs, htext, rfl⟩ := h
  obtain rfl := text_eq_some.mp htext
  rw [unescape_encoded, createWithBytes_text]
  by_cases hmark : cs.head? = some (Char.ofNat 0xFEFF)
  · obtain ⟨cs', rfl⟩ := List.head?_eq_some_iff.mp hmark
    rw [if_pos hmark, if_pos (head_units.mpr hmark)]
    rfl
  · rw [if_neg hmark, if_neg (mt head_units.mp hmark)]

/-- `ä b` and back. -/
theorem nnEncodeString_undone_umlaut :
    createStringByReplacingPercentEscapes [37, 67, 51, 37, 65, 52, 37, 50, 48, 98] = some [228, 32, 98] :=
  nnEncodeString_undone (s := [228, 32, 98]) (by rfl)

/-- Two strings never have one encoding, whatever marks they begin with. -/
theorem nnEncodeString_ne {s s' e : NSString} (hne : s ≠ s') (h : nnEncodeString s = .ok (some e)) :
    nnEncodeString s' ≠ .ok (some e) := by
  intro h'
  rw [nnEncodeString_text, Except.ok.injEq, Option.map_eq_some_iff] at h h'
  obtain ⟨cs, htext, rfl⟩ := h
  obtain ⟨cs', htext', heq⟩ := h'
  have hbytes := unescapeBytes_text cs
  rw [← heq, unescapeBytes_text, Option.some.injEq] at hbytes
  have hunits := fromUTF8_text cs
  rw [← hbytes, fromUTF8_text, Option.some.injEq] at hunits
  apply hne
  rw [← text_eq_some.mp htext, ← text_eq_some.mp htext', hunits]

theorem nnEncodeString_ne_marked :
    nnEncodeString [0xFEFF, 228] ≠ .ok (some [37, 67, 51, 37, 65, 52]) :=
  nnEncodeString_ne (s := [228]) (by decide) (by rfl)

end LearningDemo.CFURL
