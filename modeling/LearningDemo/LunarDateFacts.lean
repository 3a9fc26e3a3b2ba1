/-
From the solar to the lunar calendar and back.

A lunar year is a row of months, so the lunar date of a day is the place of
the day in the row (`locate`), and going back is counting the places before
it (`offset`). Both directions read the same months: what they need is that a
lunar year has as many days as lie between its new year and the next one. The
table says so of every year but 1899, a day too long, and 1900, a day too short.
-/
import LearningDemo.LunarYearFacts

namespace LearningDemo.LunarCore

open Imperative Gregorian Blocks

/-- The day number of a lunar year's first day. -/
def zheng (year : Int) : Int := dayNumber year ((rowOf year).2.1 - 1) (rowOf year).2.2.1

/-- A day of a lunar year of the table. -/
def LunarDate.Valid (lunar : LunarDate) : Prop :=
  InTable lunar.year ∧ 0 ≤ lunar.month ∧ 1 ≤ lunar.day ∧
    Place (months lunar.year) lunar.month.toNat (lunar.day - 1).toNat

/-- The day number of a lunar date. -/
def LunarDate.number (lunar : LunarDate) : Int :=
  zheng lunar.year + offset (months lunar.year) lunar.month.toNat (lunar.day - 1).toNat

variable {year last : Int} {c : Gregorian.Date} {lunar : LunarDate} {device : Device}

/-! ## New years -/

theorem InTable.zheng_eq (h : InTable year) :
    zheng year = newYear year + (31 * ((rowOf year).2.1 - 1) + (rowOf year).2.2.1 - 1) := by
  obtain ⟨-, hfirst, -, -⟩ := lunarInfo_rows _ h.rowOf_mem
  unfold zheng dayNumber
  rcases hfirst with ⟨hm, -, -⟩ | ⟨hm, -, -⟩
  · simp only [hm]
    norm_num [offset]
  · simp only [hm]
    norm_num [offset, monthLens]
    omega

/-- A lunar year begins between 21 January and 20 February. -/
theorem InTable.zheng_mem (h : InTable year) : newYear year + 20 ≤ zheng year ∧ zheng year ≤ newYear year + 50 := by
  obtain ⟨-, hfirst, -, -⟩ := lunarInfo_rows _ h.rowOf_mem
  rw [h.zheng_eq]
  omega

/-- Each row's year ends where the next row's begins, but for two rows. -/
theorem lunarInfo_succ : ∀ p ∈ (lunarInfo.zip lunarInfo.tail).zipIdx,
    yearLen (leap (1890 + (p.2 : Nat))) + (31 * (p.1.2.2.1 - 1) + p.1.2.2.2.1 - 1) =
      31 * (p.1.1.2.1 - 1) + p.1.1.2.2.1 - 1 +
        ((readMonths 16 p.1.1.2.2.2 (monthCount p.1.1.1)).sum : Nat) -
        (if p.2 = 9 then 1 else if p.2 = 10 then -1 else 0) := by decide +kernel

theorem zheng_succ {year : Int} (hlo : minYear ≤ year) (hhi : year < maxYear) :
    zheng (year + 1) = zheng year + (months year).sum -
      (if year = 1899 then 1 else if year = 1900 then -1 else 0) := by
  simp only [minYear, maxYear] at hlo hhi
  have h : InTable year := ⟨by simp only [minYear]; omega, by simp only [maxYear]; omega⟩
  have h' : InTable (year + 1) := ⟨by simp only [minYear]; omega, by simp only [maxYear]; omega⟩
  have hrow := h.getElem?_lunarInfo
  have hnext := h'.getElem?_lunarInfo
  simp only [minYear] at hrow hnext
  have hmem : ((rowOf year, rowOf (year + 1)), (year - 1890).toNat) ∈ (lunarInfo.zip lunarInfo.tail).zipIdx := by
    rw [List.mem_zipIdx_iff_getElem?, List.getElem?_zip_eq_some, List.getElem?_tail]
    exact ⟨hrow, by rw [← hnext]; congr 1; omega⟩
  have hgap := lunarInfo_succ _ hmem
  have h9 : (year - 1890).toNat = 9 ↔ year = 1899 := by omega
  have h10 : (year - 1890).toNat = 10 ↔ year = 1900 := by omega
  simp only [h9, h10, show (1890 : Int) + ((year - 1890).toNat : Nat) = year by omega] at hgap
  rw [h.zheng_eq, h'.zheng_eq, newYear_succ, h.sum_months]
  omega

/-! ## The place of a day in a lunar year -/

theorem place_months_zero (year : Int) : Place (months year) 0 0 := by
  have hlen : 0 < (months year).length := by
    have := monthCount_le (rowOf year).1
    rw [length_months]
    omega
  refine ⟨(months year)[0], List.getElem?_eq_getElem hlen, ?_⟩
  have := mem_months (List.getElem_mem hlen)
  omega

theorem findMonth_eq {lens : List Nat} {i t : Int} {j r : Nat} (hle : t ≤ last)
    (h : locate lens (last - t).toNat = some (j, r)) :
    findMonth last (lens.map Int.ofNat) i t = (i + j, last - r) := by
  induction lens generalizing i t j with
  | nil => simp [locate] at h
  | cons len lens ih =>
    simp only [List.map_cons, findMonth, Int.ofNat_eq_natCast]
    by_cases hlt : (last - t).toNat < len
    · simp only [locate, hlt, if_true, Option.some.injEq, Prod.mk.injEq] at h
      obtain ⟨rfl, rfl⟩ := h
      rw [if_pos (by omega)]
      simp only [Prod.mk.injEq]
      omega
    · simp only [locate, hlt, if_false, Option.map_eq_some_iff, Prod.mk.injEq, Prod.exists] at h
      obtain ⟨k, s, hks, rfl, rfl⟩ := h
      have hrest : (last - (t + (len : Int))).toNat = (last - t).toNat - len := by omega
      rw [if_neg (by omega), ih (i := i + 1) (t := t + (len : Int)) (j := k) (by omega)
        (by rw [hrest]; exact hks)]
      simp only [Prod.mk.injEq, and_true]
      omega

theorem getLunarDateByBetween_eq (between last : Int) (h : InTable year)
    (hlast : (if 0 < between then between else ((months year).sum : Nat) - between.natAbs) = last)
    (h0 : 0 ≤ last) (hlt : last < (months year).sum) :
    ∃ lunar, getLunarDateByBetween year between = .ok lunar ∧ lunar.year = year ∧ lunar.Valid ∧
      lunar.number = zheng year + last := by
  obtain ⟨i, r, hloc, hplace, hoff⟩ := exists_locate (n := last.toNat) (months year) (by omega)
  have hfind : findMonth last ((months year).map Int.ofNat) 0 0 = (0 + (i : Int), last - r) :=
    findMonth_eq h0 (by simpa using hloc)
  refine ⟨{ year := year, month := i, day := r + 1 }, ?_, rfl, ⟨h, by simp, by simp, by simpa using hplace⟩, ?_⟩
  · simp only [getLunarDateByBetween, h.getLunarYearDays_eq, ok_bind, hlast, hfind, pure_ok, Int.zero_add]
    congr 2
    omega
  · simp only [LunarDate.number, Int.toNat_natCast, Int.add_sub_cancel, hoff]
    omega

theorem LunarDate.Valid.day_le (h : lunar.Valid) : lunar.day ≤ 30 := by
  obtain ⟨len, hlen, hlt⟩ := h.2.2.2
  have := mem_months (List.mem_of_getElem? hlen)
  omega

/-! ## The lunar date of a day -/

/-- How far the lunar date of a day is ahead of the day: the days before the
new years of 1900 and 1901 are counted from the ends of wrong years. -/
def slip (c : Gregorian.Date) : Int :=
  if c.year = 1900 ∧ c.number < dayNumber 1900 0 30 then 1
  else if c.year = 1901 ∧ c.number < dayNumber 1901 1 19 then -1
  else 0

theorem slip_mem (c : Gregorian.Date) : -1 ≤ slip c ∧ slip c ≤ 1 := by
  unfold slip
  by_cases h1900 : c.year = 1900 ∧ c.number < dayNumber 1900 0 30
  · simp [h1900]
  · rw [if_neg h1900]
    split <;> omega

theorem zheng_1900 : zheng 1900 = dayNumber 1900 0 30 := by decide

theorem zheng_1901 : zheng 1901 = dayNumber 1901 1 19 := by decide

theorem zheng_1890 : zheng 1890 = dayNumber 1890 0 21 := by decide

theorem slip_after (h : zheng c.year ≤ c.number) : slip c = 0 := by
  have h1900 : ¬ (c.year = 1900 ∧ c.number < dayNumber 1900 0 30) := by
    rintro ⟨hyear, hlt⟩
    rw [hyear, zheng_1900] at h
    omega
  have h1901 : ¬ (c.year = 1901 ∧ c.number < dayNumber 1901 1 19) := by
    rintro ⟨hyear, hlt⟩
    rw [hyear, zheng_1901] at h
    omega
  rw [slip, if_neg h1900, if_neg h1901]

theorem slip_before (hlo : minYear < c.year) (hhi : c.year ≤ maxYear) (h : c.number < zheng c.year) :
    zheng c.year = zheng (c.year - 1) + (months (c.year - 1)).sum - slip c := by
  have hgap : zheng (c.year - 1 + 1) = zheng (c.year - 1) + (months (c.year - 1)).sum -
      (if c.year - 1 = 1899 then 1 else if c.year - 1 = 1900 then -1 else 0) :=
    zheng_succ (by omega) (by omega)
  have h1900 : c.year - 1 = 1899 ↔ c.year = 1900 := by omega
  have h1901 : c.year - 1 = 1900 ↔ c.year = 1901 := by omega
  have hslip : slip c = if c.year = 1900 then 1 else if c.year = 1901 then -1 else 0 := by
    by_cases h0 : c.year = 1900
    · rw [h0, zheng_1900] at h
      rw [slip, if_pos ⟨h0, h⟩, if_pos h0]
    · by_cases h1 : c.year = 1901
      · rw [h1, zheng_1901] at h
        rw [slip, if_neg (fun hn => h0 hn.1), if_pos ⟨h1, h⟩, if_neg h0, if_pos h1]
      · rw [slip, if_neg (fun hn => h0 hn.1), if_neg (fun hn => h1 hn.1), if_neg h0, if_neg h1]
  rw [Int.sub_add_cancel] at hgap
  simpa only [h1900, h1901, hslip] using hgap

theorem gmtDate_sub (y m d y' m' d' : Int) :
    (gmtDate y' m' d' - gmtDate y m d).tdiv 86400 = dayNumber y' (m' - 1) d' - dayNumber y (m - 1) d := by
  rw [gmtDate, gmtDate, ← Int.mul_sub, Int.mul_tdiv_cancel_left _ (by omega)]
  omega

/-- A day of the calendar that the tables can answer. -/
def Answered (c : Gregorian.Date) : Prop :=
  c.Valid ∧ InTable c.year ∧ dayNumber 1890 0 21 ≤ c.number

/-- The lunar date of a day: a date of the lunar year that the day's new year
ends or begins. -/
theorem Answered.getLunarByBetween_eq (h : Answered c) :
    ∃ lunar, getLunarByBetween c.year c.month c.day = .ok lunar ∧ lunar.Valid ∧
      lunar.number = c.number + slip c ∧
      lunar.year = if c.number < zheng c.year then c.year - 1 else c.year := by
  obtain ⟨hc, htab, hfirst⟩ := h
  have hmem := hc.number_mem
  have hz := htab.zheng_mem
  have hbetween : getDaysBetweenSolar c.year ((rowOf c.year).2.1 - 1) (rowOf c.year).2.2.1
      c.year c.month c.day = c.number - zheng c.year := by
    rw [getDaysBetweenSolar, gmtDate_sub, Int.add_sub_cancel, Int.add_sub_cancel, hc.number_eq]
    rfl
  have hyear := yearLen_le (leap c.year)
  have hsucc := newYear_succ (y := c.year)
  rcases lt_trichotomy c.number (zheng c.year) with hlt | heq | hgt
  · -- before the new year: a day of the lunar year that began the year before
    have hprev : minYear ≤ c.year - 1 := by
      simp only [minYear]
      by_contra hne
      have h90 : c.year = 1890 := by
        have := htab.1
        simp only [minYear] at this
        omega
      rw [h90, zheng_1890] at hlt
      omega
    have htab' : InTable (c.year - 1) := ⟨hprev, by have := htab.2; omega⟩
    have hslip := slip_before (by omega) htab.2 hlt
    have hsum := sum_months_ge (c.year - 1)
    obtain ⟨lunar, hl, hly, hlv, hln⟩ := getLunarDateByBetween_eq (c.number - zheng c.year)
      ((months (c.year - 1)).sum + (c.number - zheng c.year)) htab' (by rw [if_neg (by omega)]; omega)
      (by omega) (by omega)
    refine ⟨lunar, ?_, hlv, by omega, by rw [if_pos hlt, hly]⟩
    simp only [getLunarByBetween, htab.yearData_eq, ok_bind, hbetween]
    rw [if_neg (by omega), if_neg (by omega), hl]
  all_goals
    have hslip := slip_after (c := c) (by omega)
    have hsum := sum_months_ge c.year
  · -- the new year itself
    refine ⟨{ year := c.year, month := 0, day := 1 }, ?_, ⟨htab, by simp, by simp, ?_⟩, ?_,
      by rw [if_neg (by omega)]⟩
    · simp only [getLunarByBetween, htab.yearData_eq, ok_bind, hbetween]
      rw [if_pos (by omega)]
      rfl
    · exact place_months_zero c.year
    · simp only [LunarDate.number, Int.sub_self, Int.toNat_zero, offset_zero]
      omega
  · obtain ⟨lunar, hl, hly, hlv, hln⟩ := getLunarDateByBetween_eq (c.number - zheng c.year)
      (c.number - zheng c.year) htab (by rw [if_pos (by omega)]) (by omega) (by omega)
    refine ⟨lunar, ?_, hlv, by omega, by rw [if_neg (by omega), hly]⟩
    simp only [getLunarByBetween, htab.yearData_eq, ok_bind, hbetween]
    rw [if_neg (by omega), if_pos (by omega), hl]

/-- Before the first new year of the table there is no row to read. -/
theorem getLunarByBetween_first (hc : c.Valid) (htab : InTable c.year)
    (hfirst : c.number < dayNumber 1890 0 21) :
    getLunarByBetween c.year c.month c.day = .error (.bounds (-1)) := by
  have hyear : c.year = 1890 := by
    have hmem := hc.number_mem
    by_contra hne
    have h91 : 1891 ≤ c.year := by
      have := htab.1
      simp only [minYear] at this
      omega
    have := newYear_le h91
    have h1890 : dayNumber 1890 0 21 < newYear 1891 := by decide
    omega
  have hbetween : getDaysBetweenSolar c.year ((rowOf c.year).2.1 - 1) (rowOf c.year).2.2.1
      c.year c.month c.day = c.number - zheng c.year := by
    rw [getDaysBetweenSolar, gmtDate_sub, Int.add_sub_cancel, Int.add_sub_cancel, hc.number_eq]
    rfl
  have hneg : c.number - zheng c.year < 0 := by rw [hyear, zheng_1890]; omega
  have hrow : yearData (c.year - 1) = .error (.bounds (-1)) := by
    rw [yearData_before (by rw [hyear]; decide), hyear]
    rfl
  simp only [getLunarByBetween, htab.yearData_eq, ok_bind, hbetween]
  rw [if_neg (by omega), if_neg (by omega)]
  simp only [getLunarDateByBetween, getLunarYearDays, hrow, error_bind]

/-! ## Back to the solar calendar -/

end LearningDemo.LunarCore
