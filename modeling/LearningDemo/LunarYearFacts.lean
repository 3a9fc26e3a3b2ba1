/-
The months of a lunar year, as `getLunarYearDays` reads them.

The number of a year holds a bit for each month, from bit 15 down: long or
short. `padZeros` is to bring the digits to 16, but it counts up while the
array grows, so only every other missing zero is put in front. A number with
two digits missing is read one bit too low; the year's days are right even
so, for the bits that enter and leave are zeros.
-/
import LearningDemo.LunarCore
import Mathlib.Algebra.Order.BigOperators.Group.List
import Mathlib.Data.Nat.Digits.Lemmas

namespace LearningDemo.LunarCore

open Imperative

/-! ## Digits -/

theorem toStringLoop_eq {turns num : Nat} (h : num ≤ turns) :
    toStringLoop turns num = Nat.digits 2 num := by
  induction turns generalizing num with
  | zero =>
    obtain rfl : num = 0 := by omega
    simp [toStringLoop]
  | succ turns ih =>
    by_cases h0 : num = 0
    · simp [toStringLoop, h0]
    · have hdigits : Nat.digits 2 num = num % 2 :: Nat.digits 2 (num / 2) :=
        Nat.digits_def' (by omega) (by omega)
      have hhalf : num / 2 ≤ turns := by omega
      rw [toStringLoop, if_neg h0, Nat.and_one_is_mod, Nat.shiftRight_one, ih hhalf, hdigits]

theorem toString_eq (num : Nat) : toString num = (Nat.digits 2 num).reverse := by
  rw [toString, toStringLoop_eq (Nat.le_refl num)]

/-- How many digits `padZeros` leaves of a number. -/
def width (num : Nat) : Nat := (Nat.digits 2 num).length + (17 - (Nat.digits 2 num).length) / 2

/-- `num`'s lowest `w` bits, the highest first. -/
def bits (w num : Nat) : List Nat := (List.range w).map fun i => num / 2 ^ (w - 1 - i) % 2

theorem missing_eq {count : Nat} (h : count ≤ 16) : missing count = 16 - count := by
  unfold missing
  omega

theorem padZeros_eq {arr : List Nat} (h : arr.length ≤ 16) :
    padZeros arr = .ok (List.replicate ((17 - arr.length) / 2) 0 ++ arr) := by
  obtain ⟨m, hm⟩ : ∃ m, (17 - arr.length) / 2 = m := ⟨_, rfl⟩
  let c : Nat × List Nat → C Bool := fun s => pure (decide (s.1 < missing s.2.length))
  let body : Nat × List Nat → C (Nat × List Nat) := fun s => pure (s.1 + 1, 0 :: s.2)
  -- after `t` turns, `t` zeros are in front, and half of the missing ones are enough
  have hturn : ∀ t < m, c (t, List.replicate t 0 ++ arr) = .ok true ∧
      body (t, List.replicate t 0 ++ arr) = .ok (t + 1, List.replicate (t + 1) 0 ++ arr) := by
    intro t ht
    have hlt : t < missing (t + arr.length) := by rw [missing_eq (by omega)]; omega
    exact ⟨by simp [c, hlt], by simp [body, List.replicate_succ]⟩
  have hstop : ¬ m < missing (m + arr.length) := by rw [missing_eq (by omega)]; omega
  have hloop : whileLoop c body (16 - m + 1 + m) (0, List.replicate 0 0 ++ arr)
      = .ok (m, List.replicate m 0 ++ arr) :=
    (whileLoop_run (s := fun t => (t, List.replicate t 0 ++ arr)) hturn _).trans
      (whileLoop_stop (by simp [c, hstop]))
  rw [show 16 - m + 1 + m = 17 by omega, List.replicate_zero, List.nil_append] at hloop
  rw [padZeros, hm]
  exact congrArg (· >>= fun s => pure s.2) hloop

/-- The digits of a number, with zeros in front, are its bits. -/
theorem replicate_append_digits (num z : Nat) :
    List.replicate z 0 ++ (Nat.digits 2 num).reverse = bits ((Nat.digits 2 num).length + z) num := by
  have hlt : num < 2 ^ (Nat.digits 2 num).length := Nat.lt_base_pow_length_digits (by omega)
  refine List.ext_getElem (by simp [bits, Nat.add_comm]) fun i hi hi' => ?_
  simp only [bits, List.getElem_map, List.getElem_range]
  simp only [List.length_append, List.length_replicate, List.length_reverse] at hi
  by_cases hz : i < z
  · -- a zero in front: the number has no bit so high
    rw [List.getElem_append_left (by simpa using hz), List.getElem_replicate]
    have hle : 2 ^ (Nat.digits 2 num).length ≤ 2 ^ ((Nat.digits 2 num).length + z - 1 - i) :=
      Nat.pow_le_pow_right (by omega) (by omega)
    rw [Nat.div_eq_of_lt (by omega)]
  · rw [List.getElem_append_right (by simpa using Nat.le_of_not_lt hz), List.getElem_reverse]
    have hd := Nat.getD_digits num ((Nat.digits 2 num).length + z - 1 - i) (b := 2) (by omega)
    rw [← hd, List.getD_eq_getElem?_getD, List.getElem?_eq_getElem (by omega), Option.getD_some]
    congr 1
    simp only [List.length_replicate]
    omega

theorem padZeros_toString {num : Nat} (h : num < 2 ^ 16) :
    padZeros (toString num) = .ok (bits (width num) num) := by
  have hlen : (Nat.digits 2 num).length ≤ 16 := (Nat.digits_length_le_iff (by omega) num).mpr h
  rw [toString_eq, padZeros_eq (by simpa using hlen), List.length_reverse, replicate_append_digits]
  rfl

theorem width_eq {num : Nat} (hlo : 2 ^ 13 ≤ num) (hhi : num < 2 ^ 16) :
    width num = if 2 ^ 14 ≤ num then 16 else 15 := by
  have h16 : (Nat.digits 2 num).length ≤ 16 := (Nat.digits_length_le_iff (by omega) num).mpr hhi
  have h13 : 13 < (Nat.digits 2 num).length := (Nat.lt_digits_length_iff (by omega) num).mpr hlo
  have h14 := Nat.digits_length_le_iff (b := 2) (k := 14) (by omega) num
  unfold width
  split <;> omega

/-! ## Months -/

def monthCount (leapMonth : Nat) : Nat := if leapMonth = 0 then 12 else 13

/-- The lengths of the first months, read off the bits from bit `w - 1` down. -/
def readMonths (w num count : Nat) : List Nat :=
  (List.range count).map fun i => 29 + num / 2 ^ (w - 1 - i) % 2

theorem readMonths_succ (w num count : Nat) :
    readMonths w num (count + 1) = readMonths w num count ++ [29 + num / 2 ^ (w - 1 - count) % 2] := by
  simp [readMonths, List.range_succ]

variable {year between : Int} {row : Nat × Int × Int × Nat}

theorem load_bits {w num : Nat} {i : Int} (h0 : 0 ≤ i) (hi : i < w) :
    load (bits w num) i = .ok (num / 2 ^ (w - 1 - i.toNat) % 2) := by
  rw [load_ok]
  refine ⟨h0, ?_⟩
  rw [bits, List.getElem?_map, List.getElem?_range (by omega)]
  rfl

/-- What is known of the months before month `count`. -/
structure Read (w num count : Nat) (s : LunarYearDays) : Prop where
  yearDays : s.yearDays = ((readMonths w num count).sum : Nat)
  monthDays : s.monthDays = (readMonths w num count).map Int.ofNat

theorem Read.addMonth {w num : Nat} {i : Int} {s : LunarYearDays} (h : Read w num i.toNat s) (h0 : 0 ≤ i)
    (hi : i < w) : ∃ s', addMonth (bits w num) i s = .ok s' ∧ Read w num (i + 1).toNat s' := by
  have hsucc : (i + 1).toNat = i.toNat + 1 := by omega
  have hmod : num / 2 ^ (w - 1 - i.toNat) % 2 < 2 := Nat.mod_lt _ (by omega)
  rw [LunarCore.addMonth, load_bits h0 hi, ok_bind, hsucc]
  by_cases hbit : num / 2 ^ (w - 1 - i.toNat) % 2 = 0
  · refine ⟨_, by rw [if_pos hbit]; rfl, ?_, ?_⟩ <;> simp [readMonths_succ, h.yearDays, h.monthDays, hbit]
  · have hone : num / 2 ^ (w - 1 - i.toNat) % 2 = 1 := by omega
    refine ⟨_, by rw [if_neg hbit]; rfl, ?_, ?_⟩ <;> simp [readMonths_succ, h.yearDays, h.monthDays, hone]

theorem getLunarYearDays_row (hrow : yearData year = .ok row) (hnum : row.2.2.2 < 2 ^ 16)
    (hcount : monthCount row.1 ≤ width row.2.2.2) :
    getLunarYearDays year = .ok {
      yearDays := ((readMonths (width row.2.2.2) row.2.2.2 (monthCount row.1)).sum : Nat)
      monthDays := (readMonths (width row.2.2.2) row.2.2.2 (monthCount row.1)).map Int.ofNat } := by
  obtain ⟨leapMonth, zenMonth, zenDay, num⟩ := row
  simp only at hnum hcount
  -- the loop has read the months before `i`
  obtain ⟨s, hs, hread⟩ : ∃ s, forRange 0 (monthCount leapMonth) (addMonth (bits (width num) num))
      { yearDays := 0, monthDays := [] } = .ok s ∧ Read (width num) num (monthCount leapMonth : Int).toNat s :=
    forRange_ok (I := fun i s => Read (width num) num i.toNat s) (by omega)
      (fun i s h0 hi hs => hs.addMonth h0 (by omega)) ⟨by simp [readMonths], by simp [readMonths]⟩
  have hlen : (if leapMonth ≠ 0 then (13 : Int) else 12) = monthCount leapMonth := by
    unfold monthCount
    split <;> simp_all
  have hcode : getLunarYearDays year = .ok s := by
    simp only [getLunarYearDays, hrow, ok_bind, padZeros_toString hnum, hlen]
    exact hs
  rw [Int.toNat_natCast] at hread
  rw [hcode, ← hread.yearDays, ← hread.monthDays]

/-! ## The table -/

/-- The years of the table, which are those `formatDate` lets pass. -/
def InTable (year : Int) : Prop := minYear ≤ year ∧ year ≤ maxYear

instance (year : Int) : Decidable (InTable year) := inferInstanceAs (Decidable (_ ∧ _))

theorem InTable.formatDate_eq {year : Int} (h : InTable year) (device : Device) (month day : Int) :
    formatDate device year month day = .ok (year, month - 1, if 0 < day then day else device.today) := by
  obtain ⟨hlo, hhi⟩ := h
  have hyear : ¬ (year < (if minYear ≠ 0 then minYear else minYear + 1) ∨ year > maxYear) := by
    rw [if_pos (by decide)]
    omega
  rw [formatDate, if_neg hyear]

/-- The row of a lunar year. -/
def rowOf (year : Int) : Nat × Int × Int × Nat := lunarInfo.getD (year - minYear).toNat (0, 0, 0, 0)

/-- The lengths of the months of a lunar year, as they are read. -/
def months (year : Int) : List Nat :=
  readMonths (width (rowOf year).2.2.2) (rowOf year).2.2.2 (monthCount (rowOf year).1)

theorem length_lunarInfo : lunarInfo.length = 211 := by rfl

/-- Every year of the table: its leap month, its new year and its bits. Where
two digits are missing, the reading starts one bit too low; that changes the
months, but the bit that enters and the one that leaves are zeros. -/
theorem lunarInfo_rows : ∀ row ∈ lunarInfo,
    (row.1 ≤ 12 ∧ row.1 ≠ 1) ∧
    (row.2.1 = 1 ∧ 21 ≤ row.2.2.1 ∧ row.2.2.1 ≤ 31 ∨ row.2.1 = 2 ∧ 1 ≤ row.2.2.1 ∧ row.2.2.1 ≤ 20) ∧
    (2 ^ 13 ≤ row.2.2.2 ∧ row.2.2.2 < 2 ^ 16) ∧
    (row.2.2.2 < 2 ^ 14 →
      (readMonths 15 row.2.2.2 (monthCount row.1)).sum = (readMonths 16 row.2.2.2 (monthCount row.1)).sum ∧
      readMonths 15 row.2.2.2 (monthCount row.1) ≠ readMonths 16 row.2.2.2 (monthCount row.1)) := by
  decide +kernel

theorem InTable.getElem?_lunarInfo (h : InTable year) :
    lunarInfo[(year - minYear).toNat]? = some (rowOf year) := by
  have hlt : (year - minYear).toNat < lunarInfo.length := by
    obtain ⟨hlo, hhi⟩ := h
    rw [length_lunarInfo]
    simp only [minYear, maxYear] at *
    omega
  rw [rowOf, List.getD_eq_getElem?_getD, List.getElem?_eq_getElem hlt, Option.getD_some]

theorem InTable.yearData_eq (h : InTable year) : yearData year = .ok (rowOf year) :=
  load_ok.mpr ⟨by have := h.1; omega, h.getElem?_lunarInfo⟩

theorem InTable.rowOf_mem (h : InTable year) : rowOf year ∈ lunarInfo :=
  List.mem_of_getElem? h.getElem?_lunarInfo

theorem yearData_before (h : year < minYear) : yearData year = .error (.bounds (year - minYear)) :=
  load_neg _ (by omega)

theorem InTable.width_eq (h : InTable year) :
    width (rowOf year).2.2.2 = if 2 ^ 14 ≤ (rowOf year).2.2.2 then 16 else 15 := by
  obtain ⟨-, -, ⟨hlo, hhi⟩, -⟩ := lunarInfo_rows _ h.rowOf_mem
  exact LunarCore.width_eq hlo hhi

theorem monthCount_le (leapMonth : Nat) : 12 ≤ monthCount leapMonth ∧ monthCount leapMonth ≤ 13 := by
  unfold monthCount
  split <;> omega

theorem length_months (year : Int) : (months year).length = monthCount (rowOf year).1 := by
  simp [months, readMonths]

theorem mem_months {len : Nat} (h : len ∈ months year) : len = 29 ∨ len = 30 := by
  simp only [months, readMonths, List.mem_map] at h
  obtain ⟨i, -, rfl⟩ := h
  omega

theorem InTable.getLunarYearDays_eq (h : InTable year) :
    getLunarYearDays year = .ok { yearDays := ((months year).sum : Nat)
                                  monthDays := (months year).map Int.ofNat } := by
  obtain ⟨-, -, ⟨-, hhi⟩, -⟩ := lunarInfo_rows _ h.rowOf_mem
  refine getLunarYearDays_row h.yearData_eq hhi ?_
  have := monthCount_le (rowOf year).1
  rw [h.width_eq]
  split <;> omega

/-- A year's days are those of its bits read from bit 15 down. -/
theorem InTable.sum_months (h : InTable year) :
    (months year).sum = (readMonths 16 (rowOf year).2.2.2 (monthCount (rowOf year).1)).sum := by
  obtain ⟨-, -, -, hshort⟩ := lunarInfo_rows _ h.rowOf_mem
  rw [months, h.width_eq]
  by_cases h14 : 2 ^ 14 ≤ (rowOf year).2.2.2
  · rw [if_pos h14]
  · rw [if_neg h14]
    exact (hshort (by omega)).1

/-- A lunar year is longer than any part of a solar year that follows its new year. -/
theorem sum_months_ge (year : Int) : 348 ≤ (months year).sum := by
  have hlen : 12 ≤ (months year).length := by
    rw [length_months]
    exact (monthCount_le _).1
  have hsum := List.card_nsmul_le_sum (months year) 29 fun len hl => by
    rcases mem_months hl with h | h <;> omega
  rw [Nat.nsmul_eq_mul] at hsum
  omega

/-- **What is read of a lunar year.** The year has as many days as its bits
say, read from bit 15 down. Its months are the ones they say if and only if
at most one leading digit was missing. -/
theorem getLunarYearDays_reading (hlo : minYear ≤ year) (hhi : year ≤ maxYear) :
    ∃ row days, yearData year = .ok row ∧ getLunarYearDays year = .ok days ∧
      days.yearDays = ((readMonths 16 row.2.2.2 (monthCount row.1)).sum : Nat) ∧
      (days.monthDays = (readMonths 16 row.2.2.2 (monthCount row.1)).map Int.ofNat ↔
        2 ^ 14 ≤ row.2.2.2) := by
  have h : InTable year := ⟨hlo, hhi⟩
  refine ⟨rowOf year, _, h.yearData_eq, h.getLunarYearDays_eq, by simp only [h.sum_months], ?_⟩
  obtain ⟨-, -, -, hshort⟩ := lunarInfo_rows _ h.rowOf_mem
  rw [List.map_inj_right (fun _ _ heq => Int.ofNat.inj heq), months, h.width_eq]
  by_cases h14 : 2 ^ 14 ≤ (rowOf year).2.2.2
  · rw [if_pos h14]
    exact ⟨fun _ => h14, fun _ => rfl⟩
  · rw [if_neg h14]
    exact ⟨fun heq => absurd heq (hshort (by omega)).2, fun h' => absurd h' h14⟩

/-- 1892 is one of the years whose months are read one bit too low. -/
theorem getLunarYearDays_reading_1892 :
    ∃ row days, yearData 1892 = .ok row ∧ getLunarYearDays 1892 = .ok days ∧
      days.yearDays = ((readMonths 16 row.2.2.2 (monthCount row.1)).sum : Nat) ∧
      (days.monthDays = (readMonths 16 row.2.2.2 (monthCount row.1)).map Int.ofNat ↔
        2 ^ 14 ≤ row.2.2.2) :=
  getLunarYearDays_reading (by decide) (by decide)

end LearningDemo.LunarCore
