/-
What `solarToLunar` says of a day: it answers for every day of the years
1890 to 2100 but for those before the first new year of its tables, where it
reads the row in front of them. The names it gives tell the day apart from
the other days of its lunar year.
-/
import LearningDemo.LunarRoundTripFacts
import LearningDemo.LunarCacheFacts
import Mathlib.Data.List.Find

namespace LearningDemo.LunarCore

open Imperative Gregorian Blocks

variable {year : Int} {c c' : Gregorian.Date} {lunar lunar' : LunarDate} {device : Device} {leapMonth i m d : Nat}

/-! ## Months -/

/-- The names of a lunar year's months in their order: the leap month has the
name of the month before it, marked. -/
def monthNames (leapMonth : Nat) : List String :=
  let names := monthCn.map (· ++ "月")
  if leapMonth = 0 then names
  else names.take leapMonth ++ ("闰" ++ names.getD (leapMonth - 1) "") :: names.drop leapMonth

theorem nodup_monthNames : ∀ leapMonth ≤ 12, (monthNames leapMonth).Nodup := by
  have hnames : (monthCn.map (· ++ "月")).Nodup := by decide
  have hmarked : ∀ leapMonth ≤ 12, "闰" ++ (monthCn.map (· ++ "月")).getD (leapMonth - 1) "" ∉
      monthCn.map (· ++ "月") := by decide
  intro leapMonth hle
  unfold monthNames
  by_cases h0 : leapMonth = 0
  · simpa only [h0, if_true] using hnames
  · simp only [if_neg h0]
    rw [List.nodup_middle, List.take_append_drop]
    exact List.nodup_cons.mpr ⟨hmarked leapMonth hle, hnames⟩

theorem length_monthCn : monthCn.length = 12 := rfl

theorem lunarMonthName_eq (hleap : leapMonth ≤ 12) (hi : i < monthCount leapMonth) :
    ∃ name, lunarMonthName leapMonth i = .ok name ∧ (monthNames leapMonth)[i]? = some name := by
  unfold lunarMonthName monthNames
  unfold monthCount at hi
  by_cases h0 : leapMonth = 0
  · subst h0
    obtain ⟨mStr, hm⟩ := load_inside (a := monthCn) (i := i) (by omega) (by rw [length_monthCn]; simp at hi; omega)
    refine ⟨mStr ++ "月", ?_, ?_⟩
    · simp [hm]
    · have := (load_ok.mp hm).2
      simp only [Int.toNat_natCast] at this
      simp [this]
  · rw [if_neg h0] at hi
    have hnames : (monthCn.map (· ++ "月")).length = 12 := rfl
    rcases Nat.lt_trichotomy i leapMonth with hlt | heq | hgt
    · obtain ⟨mStr, hm⟩ := load_inside (a := monthCn) (i := i) (by omega) (by rw [length_monthCn]; omega)
      have hget := (load_ok.mp hm).2
      simp only [Int.toNat_natCast] at hget
      refine ⟨mStr ++ "月", ?_, ?_⟩
      · rw [if_neg (by omega), if_neg (by omega), hm]
        rfl
      · rw [if_neg h0, List.getElem?_append_left (by simp [hnames]; omega), List.getElem?_take_of_lt hlt,
          List.getElem?_map, hget]
        rfl
    · subst heq
      obtain ⟨mStr, hm⟩ := load_inside (a := monthCn) (i := (i : Int) - 1) (by omega)
        (by rw [length_monthCn]; omega)
      have hget := (load_ok.mp hm).2
      rw [show ((i : Int) - 1).toNat = i - 1 by omega] at hget
      refine ⟨"闰" ++ mStr ++ "月", ?_, ?_⟩
      · rw [if_pos (by omega), hm]
        rfl
      · rw [if_neg h0, List.getElem?_append_right (by simp [hnames])]
        simp [hnames, show min i 12 = i by omega, hget, String.append_assoc]
    · obtain ⟨mStr, hm⟩ := load_inside (a := monthCn) (i := (i : Int) - 1) (by omega)
        (by rw [length_monthCn]; omega)
      have hget := (load_ok.mp hm).2
      rw [show ((i : Int) - 1).toNat = i - 1 by omega] at hget
      refine ⟨mStr ++ "月", ?_, ?_⟩
      · rw [if_neg (by omega), if_pos (by omega), hm]
        rfl
      · obtain ⟨k, rfl⟩ : ∃ k, i = leapMonth + 1 + k := ⟨i - leapMonth - 1, by omega⟩
        rw [if_neg h0, List.getElem?_append_right (by simp [hnames]; omega)]
        rw [show leapMonth + 1 + k - 1 = leapMonth + k by omega] at hget
        simp [hnames, show min leapMonth 12 = leapMonth by omega, show leapMonth + 1 + k - leapMonth = k + 1 by omega,
          hget]

/-! ## Years -/

theorem length_springFestival : springFestival.length = 211 := by rfl

/-- The new year of `springFestival`. -/
def springOf (year : Int) : Int × Int := springFestival.getD (year - minYear).toNat (0, 0)

theorem springFestival_rows : ∀ p ∈ springFestival,
    p.1 = 1 ∧ 1 ≤ p.2 ∧ p.2 ≤ 31 ∨ p.1 = 2 ∧ 1 ≤ p.2 ∧ p.2 ≤ 28 := by decide +kernel

/-- Both tables of new years agree but on three of them. -/
theorem springFestival_eq : springFestival = lunarInfo.zipIdx.map fun p =>
    (p.1.2.1, p.1.2.2.1 + if p.2 = 6 ∨ p.2 = 10 ∨ p.2 = 26 then 1 else 0) := by decide +kernel

/-- The rows of 1896, 1900 and 1916 are a day late. -/
def late (year : Int) : Int := if year = 1896 ∨ year = 1900 ∨ year = 1916 then 1 else 0

theorem InTable.getElem?_springFestival (h : InTable year) :
    springFestival[(year - minYear).toNat]? = some (springOf year) := by
  have hlt : (year - minYear).toNat < springFestival.length := by
    obtain ⟨hlo, hhi⟩ := h
    rw [length_springFestival]
    simp only [minYear, maxYear] at *
    omega
  rw [springOf, List.getD_eq_getElem?_getD, List.getElem?_eq_getElem hlt, Option.getD_some]

theorem InTable.springOf_eq (h : InTable year) :
    springOf year = ((rowOf year).2.1, (rowOf year).2.2.1 + late year) := by
  have hlate : ((year - minYear).toNat = 6 ∨ (year - minYear).toNat = 10 ∨ (year - minYear).toNat = 26) ↔
      (year = 1896 ∨ year = 1900 ∨ year = 1916) := by
    have := h.1
    simp only [minYear] at *
    omega
  have hspring := h.getElem?_springFestival
  rw [springFestival_eq, List.getElem?_map, List.getElem?_zipIdx, h.getElem?_lunarInfo] at hspring
  simp only [Option.map_some, Option.some.injEq, Nat.zero_add, hlate] at hspring
  exact hspring.symm

theorem InTable.isNewLunarYear_eq (h : InTable year) (month day : Int) :
    isNewLunarYear year month day = .ok (decide ((springOf year).1 < month ∨
      month = (springOf year).1 ∧ (springOf year).2 ≤ day)) := by
  have hload : load springFestival (year - minYear) = .ok (springOf year) :=
    load_ok.mpr ⟨by have := h.1; omega, h.getElem?_springFestival⟩
  rw [isNewLunarYear, hload, ok_bind]
  by_cases hlt : (springOf year).1 < month
  · simp [hlt]
  · by_cases heq : month = (springOf year).1
    · simp [heq]
    · simp [hlt, heq]

theorem isNewLunarYear_date (hc : c.Valid) (h : InTable c.year) :
    isNewLunarYear c.year (c.month + 1) c.day = .ok (decide (zheng c.year + late c.year ≤ c.number)) := by
  have hrow := springFestival_rows _ (List.mem_of_getElem? h.getElem?_springFestival)
  -- the new year as a date of the same year
  obtain ⟨m, d, hm, hd, hvalid⟩ : ∃ m d : Nat, (springOf c.year).1 = m + 1 ∧ (springOf c.year).2 = d ∧
      Date.Valid { year := c.year, month := m, day := d } := by
    rcases hrow with ⟨hm, hlo, hhi⟩ | ⟨hm, hlo, hhi⟩
    · exact ⟨0, (springOf c.year).2.toNat, by omega, by omega, by dsimp only; omega, 31, rfl, by dsimp only; omega⟩
    · refine ⟨1, (springOf c.year).2.toNat, by omega, by omega, by dsimp only; omega,
        if leap c.year then 29 else 28, rfl, ?_⟩
      dsimp only
      split <;> omega
  have hle := hvalid.le_iff hc rfl
  have hnum := hvalid.number_eq
  simp only at hle hnum
  rw [h.isNewLunarYear_eq]
  congr 1
  have hzheng : zheng c.year + late c.year =
      dayNumber c.year ((springOf c.year).1 - 1) (springOf c.year).2 := by
    rw [h.springOf_eq, dayNumber_add_day, zheng]
  rw [decide_eq_decide, hzheng, hm, hd, Int.add_sub_cancel, hnum, hle]
  omega

/-- The name of a year in the cycle of 60. -/
def sexagenary (year : Int) : String :=
  heavenlyStems.getD ((year - 4) % 10).toNat "" ++ earthlyBranches.getD ((year - 4) % 12).toNat ""

/-- The animal of a year. -/
def animal (year : Int) : String := zodiac.getD ((year - 4) % 12).toNat ""

theorem load_tmod_eq {a : List String} {n : Nat} (hn : 0 < n) (hlen : a.length = n) (k : Nat) :
    load a ((k : Int).tmod n) = .ok (a.getD (k % n) "") := by
  have hlt : k % n < a.length := by rw [hlen]; exact Nat.mod_lt k hn
  rw [Int.tmod_eq_emod_of_nonneg (by omega), load_ok]
  refine ⟨by omega, ?_⟩
  rw [← Int.natCast_mod, Int.toNat_natCast, List.getD_eq_getElem?_getD, List.getElem?_eq_getElem hlt,
    Option.getD_some]

/-- The names are asked for with the number of the year that follows. -/
theorem getLunarYearName_eq (h : 1864 ≤ year) : getLunarYearName (year + 1) 0 = .ok (sexagenary year) := by
  obtain ⟨k, hk⟩ : ∃ k : Nat, year + 1 - 1890 + 25 + 0 = k := ⟨(year - 1864).toNat, by omega⟩
  have hs := load_tmod_eq (a := heavenlyStems) (n := 10) (by omega) rfl k
  have hb := load_tmod_eq (a := earthlyBranches) (n := 12) (by omega) rfl k
  have hstem : k % 10 = ((year - 4) % 10).toNat := by omega
  have hbranch : k % 12 = ((year - 4) % 12).toNat := by omega
  rw [getLunarYearName, hk, cyclical]
  simp only [Nat.cast_ofNat] at hs hb
  rw [hs, hb, ok_bind, ok_bind, hstem, hbranch]
  rfl

theorem getYearZodiac_eq (h : 1864 ≤ year) : getYearZodiac (year + 1) = .ok (animal year) := by
  obtain ⟨k, hk⟩ : ∃ k : Nat, year + 1 - 1890 + 25 = k := ⟨(year - 1864).toNat, by omega⟩
  have hload := load_tmod_eq (a := zodiac) (n := 12) (by omega) rfl k
  have hbranch : k % 12 = ((year - 4) % 12).toNat := by omega
  rw [getYearZodiac, hk, animal, ← hbranch]
  exact hload

/-! ## Terms -/

theorem length_solarTermRows : solarTermRows.length = 211 := by rfl

/-- Every row of the terms: the terms `2 * k` and `2 * k + 1` lie in the two
halves of one month, the first two in February. -/
theorem solarTermRows_halves : ∀ row ∈ solarTermRows, row.length = 24 ∧ ∀ k < 12,
    row.getD (2 * k) 0 / 100 = (k + 1) % 12 + 1 ∧ 1 ≤ row.getD (2 * k) 0 % 100 ∧ row.getD (2 * k) 0 % 100 ≤ 15 ∧
    row.getD (2 * k + 1) 0 / 100 = (k + 1) % 12 + 1 ∧ 16 ≤ row.getD (2 * k + 1) 0 % 100 ∧
      row.getD (2 * k + 1) 0 % 100 ≤ 28 := by decide +kernel

/-- The terms of a year. -/
def termRow (year : Int) : List Nat := solarTermRows.getD (year - minYear).toNat []

/-- The key of a number of the table. -/
def termKey (n : Nat) : String := formatDay ((n / 100 : Nat) - 1) (n % 100 : Nat)

theorem enumerateTerms_eq {keys : List String} (idx : Nat) (res : TermList) (h : idx + keys.length = 24) :
    enumerateTerms keys idx res = .ok ((keys.zip (solarTerm.drop idx)).reverse ++ res) := by
  induction keys generalizing idx res with
  | nil => rfl
  | cons key keys ih =>
    simp only [List.length_cons] at h
    have hidx : idx < solarTerm.length := by show idx < 24; omega
    have hname : load solarTerm idx = .ok solarTerm[idx] := load_ok.mpr ⟨by omega, by simp [hidx]⟩
    have hrest := ih (idx + 1) ((key, solarTerm[idx]) :: res) (by omega)
    rw [Int.natCast_succ] at hrest
    rw [enumerateTerms, hname, ok_bind, hrest, List.drop_eq_getElem_cons hidx, List.zip_cons_cons,
      List.reverse_cons, List.append_assoc, List.singleton_append]

/-- The terms of a year, each under its day. -/
def termsOf (year : Int) : TermList := (((termRow year).map termKey).zip solarTerm).reverse

theorem InTable.termRow_mem (h : InTable year) : termRow year ∈ solarTermRows := by
  have hlt : (year - minYear).toNat < solarTermRows.length := by
    obtain ⟨hlo, hhi⟩ := h
    rw [length_solarTermRows]
    simp only [minYear, maxYear] at *
    omega
  rw [termRow, List.getD_eq_getElem?_getD, List.getElem?_eq_getElem hlt, Option.getD_some]
  exact List.getElem_mem hlt

theorem InTable.getYearTerm_eq (h : InTable year) : getYearTerm year = .ok (termsOf year) := by
  have hlt : (year - minYear).toNat < solarTermRows.length := by
    obtain ⟨hlo, hhi⟩ := h
    rw [length_solarTermRows]
    simp only [minYear, maxYear] at *
    omega
  have hterms : solarTerms year = some ((termRow year).map termKey) := by
    rw [solarTerms, if_pos h.1, termRow, List.getD_eq_getElem?_getD, List.getElem?_eq_getElem hlt]
    rfl
  have hlen : 0 + ((termRow year).map termKey).length = 24 := by
    rw [List.length_map, (solarTermRows_halves _ h.termRow_mem).1]
  have := enumerateTerms_eq 0 [] hlen
  rw [List.append_nil, List.drop_zero] at this
  rw [getYearTerm, hterms]
  exact this

/-! ## Keys -/

theorem length_pad2 : ∀ i < 32, (pad2 (i : Nat)).toList.length = 2 := by decide

theorem pad2_inj {i j : Nat} (hi : i < 32) (hj : j < 32) (h : pad2 i = pad2 j) : i = j := by
  have hnodup : ((List.range 32).map fun i : Nat => pad2 i).Nodup := by decide +kernel
  exact List.inj_on_of_nodup_map hnodup (List.mem_range.mpr hi) (List.mem_range.mpr hj) h

theorem formatDay_inj {m' d' : Nat} (hm : m < 32) (hd : d < 32) (hm' : m' < 32) (hd' : d' < 32) :
    formatDay ((m : Int) - 1) d = formatDay ((m' : Int) - 1) d' ↔ m = m' ∧ d = d' := by
  constructor
  · intro heq
    have hlist := congrArg String.toList heq
    simp only [formatDay, Int.sub_add_cancel, String.toList_append, List.append_assoc] at hlist
    have htail := List.append_inj_right hlist rfl
    have hparts := List.append_inj htail ((length_pad2 m hm).trans (length_pad2 m' hm').symm)
    exact ⟨pad2_inj hm hm' (String.toList_inj.mp hparts.1), pad2_inj hd hd' (String.toList_inj.mp hparts.2)⟩
  · rintro ⟨rfl, rfl⟩
    rfl

theorem lookupDay_eq {α : Type} {table : List (Nat × α)} (hkeys : ∀ e ∈ table, e.1 < 3200 ∧ e.1 % 100 < 32)
    (hm : m < 32) (hd : d < 32) :
    lookupDay table (formatDay ((m : Int) - 1) d) = (table.find? fun e => e.1 == 100 * m + d).map Prod.snd := by
  rw [lookupDay]
  congr 1
  refine List.find?_congr fun e he => ?_
  obtain ⟨hlt, hday⟩ := hkeys e he
  rw [Bool.eq_iff_iff, beq_iff_eq, beq_iff_eq, formatDay_inj (by omega) hday hm hd]
  omega

/-! ## Festivals of the lunar year -/

theorem months_pos : ∀ len ∈ months year, 0 < len := by
  intro len hlen
  have := mem_months hlen
  omega

/-- The number a month goes by: the leap month goes by that of the month before it. -/
def monthNumber (leapMonth month : Nat) : Nat := if 0 < leapMonth ∧ leapMonth ≤ month then month else month + 1

theorem isLastDay_eq (h : lunar.Valid) : isLastDay ((months lunar.year).map Int.ofNat) lunar =
    .ok (decide (lunar.number + 1 = zheng lunar.year + (months lunar.year).sum)) := by
  obtain ⟨-, hm, hd, hplace⟩ := h
  have hlast := hplace.offset_succ_eq_sum months_pos
  have hlt := hplace.lt_length
  have hnum : lunar.number + 1 = zheng lunar.year + (months lunar.year).sum ↔
      offset (months lunar.year) lunar.month.toNat (lunar.day - 1).toNat + 1 = (months lunar.year).sum := by
    rw [LunarDate.number]
    omega
  simp only [isLastDay, hnum, hlast, List.length_map]
  by_cases hmonth : lunar.month = ((months lunar.year).length : Int) - 1
  · obtain ⟨len, hlen, -⟩ := hplace
    have hload : load ((months lunar.year).map Int.ofNat) lunar.month = .ok (len : Int) :=
      load_ok.mpr ⟨hm, by rw [List.getElem?_map, hlen]; rfl⟩
    rw [if_pos hmonth, ← hmonth, hload, ok_bind]
    refine congrArg Except.ok ?_
    rw [decide_eq_decide, hlen, Option.some.injEq]
    omega
  · rw [if_neg hmonth]
    refine congrArg Except.ok ?_
    rw [eq_comm, decide_eq_false_iff_not]
    omega

/-- The festival of a lunar date: new year's eve on the year's last day,
otherwise the one of the month's number and the day. -/
def festivalOf (lunar : LunarDate) : Option String :=
  if lunar.number + 1 = zheng lunar.year + (months lunar.year).sum then some "除夕"
  else (lunarFestival.find? fun e =>
    e.1 == 100 * monthNumber (rowOf lunar.year).1 lunar.month.toNat + lunar.day.toNat).map Prod.snd

theorem lunarFestival_keys : ∀ e ∈ lunarFestival, e.1 < 3200 ∧ e.1 % 100 < 32 := by decide

theorem lunarFtv_eq (h : lunar.Valid) :
    lunarFtv (rowOf lunar.year).1 ((months lunar.year).map Int.ofNat) lunar = .ok (festivalOf lunar) := by
  have hlast := isLastDay_eq h
  have hday := h.day_le
  obtain ⟨htab, hm, hd, hplace⟩ := h
  have hmonth := hplace.lt_length
  rw [length_months] at hmonth
  have hcount := (monthCount_le (rowOf lunar.year).1).2
  have heve : lookupDay lunarFestival "d0100" = some "除夕" := by decide
  have hkey : ∀ n : Nat, n < 32 → lookupDay lunarFestival (formatDay ((n : Int) - 1) lunar.day) =
      (lunarFestival.find? fun e => e.1 == 100 * n + lunar.day.toNat).map Prod.snd := by
    intro n hn
    have := lookupDay_eq (d := lunar.day.toNat) lunarFestival_keys hn (by omega)
    rwa [Int.toNat_of_nonneg (by omega)] at this
  unfold lunarFtv festivalOf
  rw [hlast, ok_bind]
  by_cases heq : lunar.number + 1 = zheng lunar.year + (months lunar.year).sum
  · simp only [heq, decide_true, if_true, heve]
    rfl
  · simp only [heq, decide_false, if_false, Bool.false_eq_true, monthNumber]
    by_cases hleap : 0 < (rowOf lunar.year).1 ∧ (rowOf lunar.year).1 ≤ lunar.month.toNat
    · rw [if_pos (by omega), if_pos hleap, ← hkey lunar.month.toNat (by omega), Int.toNat_of_nonneg hm]
      rfl
    · rw [if_neg (by omega), if_neg hleap, ← hkey (lunar.month.toNat + 1) (by omega)]
      refine congrArg (fun month => Except.ok (lookupDay lunarFestival (formatDay month lunar.day))) ?_
      omega

/-! ## The answer -/

/-- What the answer for a day of this lunar date says, with the year it is named by. -/
structure Tells (lunar : LunarDate) (stemYear : Int) (res : LunarDay) : Prop where
  lunarDay : res.lunarDay = lunar.day
  monthName : (monthNames (rowOf lunar.year).1)[lunar.month.toNat]? = some res.lunarMonthName
  dayName : dateCn[(lunar.day - 1).toNat]? = some res.lunarDayName
  festival : res.lunarFestival = (festivalOf lunar).getD ""
  ganZhi : res.GanZhiYear = sexagenary stemYear
  zodiac : res.zodiac = animal stemYear

theorem lunarDayOf_ok (device : Device) (h : lunar.Valid) {stemYear : Int} (hstem : 1864 ≤ stemYear) (y m d : Int)
    (termList : TermList) :
    ∃ res, lunarDayOf device y m d (stemYear + 1) lunar termList = .ok res ∧ Tells lunar stemYear res := by
  have hday := h.day_le
  have hftv := lunarFtv_eq h
  obtain ⟨htab, hm, hd, hplace⟩ := h
  have hmonth := hplace.lt_length
  rw [length_months] at hmonth
  obtain ⟨⟨hleap, -⟩, -, -, -⟩ := lunarInfo_rows _ htab.rowOf_mem
  obtain ⟨monthName, hname, hnames⟩ := lunarMonthName_eq hleap hmonth
  rw [Int.toNat_of_nonneg hm] at hname
  obtain ⟨dayName, hdayName⟩ := load_inside (a := dateCn) (i := lunar.day - 1) (by omega)
    (by show lunar.day - 1 < 31; omega)
  have hcode : ∃ res, lunarDayOf device y m d (stemYear + 1) lunar termList = .ok res ∧ res.lunarDay = lunar.day ∧
      res.lunarMonthName = monthName ∧ res.lunarDayName = dayName ∧
      res.lunarFestival = (festivalOf lunar).getD "" ∧ res.GanZhiYear = sexagenary stemYear ∧
      res.zodiac = animal stemYear := by
    simp only [lunarDayOf, getLunarLeapYear, htab.yearData_eq, ok_bind, pure_ok, hname, htab.getLunarYearDays_eq,
      hftv, hdayName, getLunarYearName_eq hstem, getYearZodiac_eq hstem, Except.ok.injEq]
    exact ⟨_, rfl, rfl, rfl, rfl, rfl, rfl, rfl⟩
  obtain ⟨res, hres, hday, hmonthName, hdayName', hfestival, hganZhi, hzodiac⟩ := hcode
  refine ⟨res, hres, hday, by rw [hmonthName, hnames], ?_, hfestival, hganZhi, hzodiac⟩
  rw [hdayName', (load_ok.mp hdayName).2]

/-- The lunar year of a day. -/
def lunarYear (c : Gregorian.Date) : Int := if c.number < zheng c.year then c.year - 1 else c.year

/-- The year a day is named by: its lunar year, but on the new years that come
late it is still the year before. -/
def stemYear (c : Gregorian.Date) : Int :=
  if zheng c.year + late c.year ≤ c.number then c.year else c.year - 1

theorem formatDate_date (hc : c.Valid) (htab : InTable c.year) :
    formatDate device c.year (c.month + 1) c.day = .ok (c.year, c.month, c.day) := by
  have hd := hc.1
  rw [htab.formatDate_eq, Int.add_sub_cancel, if_pos (by omega)]

/-- What is answered for a day, with its lunar date. -/
theorem Answered.plainSolarToLunar_ok (device : Device) (h : Answered c) :
    ∃ (lunar : LunarDate) (res : LunarDay), lunar.Valid ∧ lunar.number = c.number + slip c ∧
      lunar.year = lunarYear c ∧ plainSolarToLunar device c.year (c.month + 1) c.day = .ok (.ok res) ∧
      Tells lunar (stemYear c) res := by
  obtain ⟨lunar, hlunar, hvalid, hnumber, hyear⟩ := h.getLunarByBetween_eq
  have hterm := h.2.1.getYearTerm_eq
  have hstem : 1864 ≤ stemYear c := by
    have := h.2.1.1
    simp only [minYear] at this
    unfold stemYear
    split <;> omega
  have hGanZhi : (if zheng c.year + late c.year ≤ c.number then c.year + 1 else c.year) = stemYear c + 1 := by
    unfold stemYear
    split <;> omega
  obtain ⟨res, hres, htells⟩ := lunarDayOf_ok device hvalid hstem c.year c.month c.day (termsOf c.year)
  refine ⟨lunar, res, hvalid, hnumber, hyear, ?_, htells⟩
  simp only [plainSolarToLunar, formatDate_date h.1 h.2.1, hterm, ok_bind, solarToLunarWith,
    isNewLunarYear_date h.1 h.2.1, decide_eq_true_eq, hlunar, hGanZhi, hres]
  rfl

theorem plainSolarToLunar_first (hc : c.Valid) (htab : InTable c.year) (hfirst : c.number < dayNumber 1890 0 21) :
    plainSolarToLunar device c.year (c.month + 1) c.day = .error (.bounds (-1)) := by
  have hterm := htab.getYearTerm_eq
  simp only [plainSolarToLunar, formatDate_date hc htab, hterm, ok_bind, solarToLunarWith,
    isNewLunarYear_date hc htab, getLunarByBetween_first hc htab hfirst, error_bind]

theorem plainSolarToLunar_refused (month day : Int) (h : ¬ InTable year) :
    plainSolarToLunar device year month day =
      .ok (.error { error := 100, msg := errorCode.lookup 100 }) := by
  have hyear : year < (if minYear ≠ 0 then minYear else minYear + 1) ∨ year > maxYear := by
    rw [if_pos (by decide)]
    simp only [InTable, not_and_or, not_le] at h
    omega
  rw [plainSolarToLunar, formatDate, if_pos hyear]
  rfl

variable {memoryCache : LCMemoryCache}

/-- The calendar answers a day with `res`. -/
def Says (device : Device) (memoryCache : LCMemoryCache) (c : Gregorian.Date) (res : LunarDay) : Prop :=
  (solarToLunar device c.year (c.month + 1) c.day).run' memoryCache = .ok (.ok res)

variable {memoryCache' : LCMemoryCache} {res res' : LunarDay} {device' : Device}

theorem Answered.says (device : Device) (h : Answered c) (hco : memoryCache.Coherent) :
    ∃ res, Says device memoryCache c res := by
  obtain ⟨lunar, res, -, -, -, hres, -⟩ := h.plainSolarToLunar_ok device
  exact ⟨res, ((agrees_solarToLunar device _ _ _).run' hco).trans hres⟩

theorem Says.tells (h : Says device memoryCache c res) (hc : c.Valid) (hco : memoryCache.Coherent) :
    Answered c ∧ ∃ lunar : LunarDate, lunar.Valid ∧ lunar.number = c.number + slip c ∧
      lunar.year = lunarYear c ∧ Tells lunar (stemYear c) res := by
  have hplain : plainSolarToLunar device c.year (c.month + 1) c.day = .ok (.ok res) :=
    ((agrees_solarToLunar device _ _ _).run' hco).symm.trans h
  have hans : Answered c := by
    refine ⟨hc, ?_, ?_⟩
    · by_contra hout
      rw [plainSolarToLunar_refused _ _ hout] at hplain
      simp at hplain
    · by_contra hfirst
      have htab : InTable c.year := by
        by_contra hout
        rw [plainSolarToLunar_refused _ _ hout] at hplain
        simp at hplain
      rw [plainSolarToLunar_first hc htab (by omega)] at hplain
      simp at hplain
  obtain ⟨lunar, found, hvalid, hnum, hyear, hfound, htells⟩ := hans.plainSolarToLunar_ok device
  obtain rfl : found = res := Except.ok.inj (Except.ok.inj (hfound.symm.trans hplain))
  exact ⟨hans, lunar, hvalid, hnum, hyear, htells⟩

theorem nodup_dateCn : dateCn.Nodup := by decide

theorem Tells.names_inj {stems stems' : Int} (h : Tells lunar stems res) (h' : Tells lunar' stems' res')
    (hvalid : lunar.Valid) (hvalid' : lunar'.Valid) (hyear : lunar.year = lunar'.year) :
    res.lunarMonthName = res'.lunarMonthName ∧ res.lunarDayName = res'.lunarDayName ↔ lunar = lunar' := by
  constructor
  · rintro ⟨hmonth, hday⟩
    have hm := h.monthName
    have hm' := h'.monthName
    have hd := h.dayName
    have hd' := h'.dayName
    rw [← hyear, ← hmonth] at hm'
    rw [← hday] at hd'
    have hleap := (lunarInfo_rows _ hvalid.1.rowOf_mem).1.1
    have hmi := List.getElem?_inj (List.getElem?_eq_some_iff.mp hm).1 (nodup_monthNames _ hleap) |>.mp
      (hm.trans hm'.symm)
    have hdi := List.getElem?_inj (List.getElem?_eq_some_iff.mp hd).1 nodup_dateCn |>.mp (hd.trans hd'.symm)
    obtain ⟨y, m, d⟩ := lunar
    obtain ⟨y', m', d'⟩ := lunar'
    obtain ⟨-, hm0, hd0, -⟩ := hvalid
    obtain ⟨-, hm0', hd0', -⟩ := hvalid'
    simp only at *
    simp only [LunarDate.mk.injEq]
    omega
  · rintro rfl
    exact ⟨Option.some.inj (h.monthName.symm.trans h'.monthName),
      Option.some.inj (h.dayName.symm.trans h'.dayName)⟩

/-- **The names tell the day.** Within a lunar year, two days have the same
names of month and day if and only if they are one, or fall on one by their slips. -/
theorem names_tell_day (h : Says device memoryCache c res) (h' : Says device' memoryCache' c' res')
    (hc : c.Valid) (hc' : c'.Valid) (hco : memoryCache.Coherent) (hco' : memoryCache'.Coherent)
    (hyear : lunarYear c = lunarYear c') :
    res.lunarMonthName = res'.lunarMonthName ∧ res.lunarDayName = res'.lunarDayName ↔
      c.number + slip c = c'.number + slip c' := by
  obtain ⟨-, lunar, hvalid, hnum, hly, htells⟩ := h.tells hc hco
  obtain ⟨-, lunar', hvalid', hnum', hly', htells'⟩ := h'.tells hc' hco'
  have hsame : lunar.year = lunar'.year := by rw [hly, hly', hyear]
  rw [htells.names_inj htells' hvalid hvalid' hsame, ← hnum, ← hnum']
  exact ⟨fun heq => by rw [heq], hvalid.inj hvalid' hsame⟩

/-- The last two days of the lunar year 2017. -/
theorem names_tell_day_2018 :
    ∃ res res', Says gmtDevice {} { year := 2018, month := 1, day := 14 } res ∧
      Says gmtDevice {} { year := 2018, month := 1, day := 15 } res' ∧
      (res.lunarMonthName = res'.lunarMonthName ∧ res.lunarDayName = res'.lunarDayName ↔
        Date.number { year := 2018, month := 1, day := 14 } + slip { year := 2018, month := 1, day := 14 } =
          Date.number { year := 2018, month := 1, day := 15 } + slip { year := 2018, month := 1, day := 15 }) := by
  have hc : Date.Valid { year := 2018, month := 1, day := 14 } := ⟨by decide, 28, by decide, by decide⟩
  have hc' : Date.Valid { year := 2018, month := 1, day := 15 } := ⟨by decide, 28, by decide, by decide⟩
  obtain ⟨res, h⟩ := Answered.says gmtDevice ⟨hc, by decide, by decide⟩ coherent_fresh
  obtain ⟨res', h'⟩ := Answered.says gmtDevice ⟨hc', by decide, by decide⟩ coherent_fresh
  exact ⟨res, res', h, h', names_tell_day h h' hc hc' coherent_fresh coherent_fresh (by decide)⟩

end LearningDemo.LunarCore
