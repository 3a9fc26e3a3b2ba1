/-
The month's calendar: 42 days in a row that begin in the week of the first.
The days before and after the month come from its neighbours, over the ends
of the year; each gets what the lunar calendar says of it. Only the first
month of the tables fails, for its days lie before the first new year.
-/
import LearningDemo.LunarFestivalFacts

namespace LearningDemo.LunarCore

open Imperative Gregorian Blocks

variable {year : Int} {month len : Nat} {c : Gregorian.Date} {device : Device}
  {memoryCache : LCMemoryCache}

/-! ## Months -/

theorem isLeapYear_eq (year : Int) : isLeapYear year = leap year := by
  have h : ∀ n : Int, n ≠ 0 → (year.tmod n == 0) = (year % n == 0) := by
    intro n hn
    rw [Bool.eq_iff_iff, beq_iff_eq, beq_iff_eq, ← Int.dvd_iff_tmod_eq_zero, ← Int.dvd_iff_emod_eq_zero]
  simp only [isLeapYear, leap, bne, h 4 (by decide), h 100 (by decide), h 400 (by decide)]

theorem getSolarMonthDays_eq (hlen : (monthLens (leap year))[month]? = some len) :
    getSolarMonthDays year month = .ok (len : Int) := by
  unfold getSolarMonthDays
  by_cases hfeb : (month : Int) = 1
  · obtain rfl : month = 1 := by omega
    obtain rfl : (if leap year then 29 else 28) = len := Option.some.inj hlen
    rw [if_pos hfeb, isLeapYear_eq]
    cases leap year <;> rfl
  · rw [if_neg hfeb]
    refine load_ok.mpr ⟨by omega, ?_⟩
    have hother : ∀ b, ∀ m < 12, m ≠ 1 → solarDaysOfMonth[m]? = (monthLens b)[m]?.map Int.ofNat := by decide
    have hlt : month < 12 := (List.getElem?_eq_some_iff.mp hlen).1
    rw [Int.toNat_natCast, hother (leap year) month hlt (by omega), hlen]
    rfl

/-- The entry of a day. -/
def cellOf (n : Int) : DayData :=
  { year := (ofDayNumber n).year, month := (ofDayNumber n).month + 1, day := (ofDayNumber n).day }

/-- Days in a row, from `n` on. -/
def cellsFrom (n : Int) (count : Nat) : List DayData := (List.range count).map fun i : Nat => cellOf (n + i)

theorem cellsFrom_append (n : Int) (j k : Nat) : cellsFrom n j ++ cellsFrom (n + j) k = cellsFrom n (j + k) := by
  simp only [cellsFrom, List.range_add, List.map_append, List.map_map]
  congr 1
  refine List.map_congr_left fun i _ => ?_
  simp only [Function.comp_apply, Nat.cast_add, add_assoc]

theorem cellsFrom_succ (n : Int) (k : Nat) : cellsFrom n (k + 1) = cellOf n :: cellsFrom (n + 1) k := by
  have hone : cellsFrom n 1 = [cellOf n] := by simp [cellsFrom]
  rw [Nat.add_comm, ← cellsFrom_append, hone]
  rfl

theorem createMonthData_eq {s n : Nat} (hlen : (monthLens (leap year))[month]? = some len) (hstart : 1 ≤ s)
    (hn : s + n ≤ len + 1) :
    createMonthData year (month + 1) n s = cellsFrom (dayNumber year month 1 + (s - 1 : Nat)) n := by
  unfold createMonthData cellsFrom
  by_cases h0 : n = 0
  · subst h0
    rfl
  · rw [if_neg (by omega), Int.toNat_natCast]
    refine List.map_congr_left fun i hi => ?_
    have hi' := List.mem_range.mp hi
    have hvalid : Date.Valid { year := year, month := month, day := s + i } :=
      ⟨by dsimp only; omega, len, hlen, by dsimp only; omega⟩
    have hnumber : dayNumber year month 1 + (s - 1 : Nat) + i =
        Date.number { year := year, month := month, day := s + i } := by
      rw [← hvalid.number_eq, add_assoc, ← dayNumber_add_day]
      congr 1
      dsimp only
      omega
    rw [cellOf, hnumber, hvalid.ofDayNumber_number]
    simp

/-! ## The days shown -/

/-- The day a month's calendar begins with: the Sunday on or before the first. -/
def gridStart (year : Int) (month : Nat) : Int :=
  dayNumber year month 1 - Gregorian.weekday (dayNumber year month 1)

theorem exists_monthLen (year : Int) {m : Nat} (hm : m < 12) :
    ∃ len, (monthLens (leap year))[m]? = some len ∧ 28 ≤ len ∧ len ≤ 31 := by
  have hlens : ∀ b, ∀ len ∈ monthLens b, 28 ≤ len ∧ len ≤ 31 := by decide
  have hlt : m < (monthLens (leap year)).length := hm
  exact ⟨_, List.getElem?_eq_getElem hlt, hlens _ _ (List.getElem_mem hlt)⟩

theorem exists_previous (year : Int) (hm : month < 12) :
    ∃ (preYear : Int) (preMonth len : Nat), (if (month : Int) - 1 < 0 then year - 1 else year) = preYear ∧
      (if (month : Int) - 1 < 0 then 11 else (month : Int) - 1) = preMonth ∧
      (monthLens (leap preYear))[preMonth]? = some len ∧ 28 ≤ len ∧
      dayNumber year month 1 = dayNumber preYear preMonth 1 + len := by
  by_cases h0 : month = 0
  · subst h0
    obtain ⟨len, hlen, hlo, -⟩ := exists_monthLen (m := 11) (year - 1) (by omega)
    have hnext := dayNumber_next hlen
    simp only [if_true, Int.sub_add_cancel] at hnext
    exact ⟨year - 1, 11, len, by simp, by simp, hlen, hlo, hnext⟩
  · obtain ⟨len, hlen, hlo, -⟩ := exists_monthLen (m := month - 1) year (by omega)
    have hnext := dayNumber_next hlen
    rw [if_neg (by omega), if_neg (by omega), show month - 1 + 1 = month by omega] at hnext
    exact ⟨year, month - 1, len, if_neg (by omega), by rw [if_neg (by omega)]; omega, hlen, hlo, hnext⟩

theorem exists_following (year : Int) (hm : month < 12) {len : Nat}
    (hlen : (monthLens (leap year))[month]? = some len) :
    ∃ (nextYear : Int) (nextMonth len' : Nat), (if 11 < (month : Int) + 1 then year + 1 else year) = nextYear ∧
      (if 11 < (month : Int) + 1 then 0 else (month : Int) + 1) = nextMonth ∧
      (monthLens (leap nextYear))[nextMonth]? = some len' ∧ 28 ≤ len' ∧
      dayNumber nextYear nextMonth 1 = dayNumber year month 1 + len := by
  have hnext := dayNumber_next hlen
  obtain ⟨len', hlen', hlo, -⟩ := exists_monthLen (m := if month = 11 then 0 else month + 1)
    (if month = 11 then year + 1 else year) (by split <;> omega)
  refine ⟨_, _, len', ?_, ?_, hlen', hlo, hnext⟩
  · by_cases h11 : month = 11
    · rw [if_pos (by omega), if_pos h11]
    · rw [if_neg (by omega), if_neg h11]
  · by_cases h11 : month = 11
    · rw [if_pos (by omega), if_pos h11]
      rfl
    · rw [if_neg (by omega), if_neg h11]
      rfl

/-- **The month's days.** The calendar of a month shows 42 days in a row,
whatever the months before and after it are. -/
theorem solarCalendar_eq (hdev : device.Gregorian) (htab : InTable year) (hm : month < 12) :
    ∃ data, solarCalendar device year (month + 1) = .ok (.ok data) ∧
      data.monthData = cellsFrom (gridStart year month) 42 := by
  obtain ⟨len, hlen, hlo, hhi⟩ := exists_monthLen year hm
  obtain ⟨preYear, preMonth, preLen, hpy, hpm, hpre, hplo, hpnum⟩ := exists_previous year hm
  obtain ⟨nextYear, nextMonth, nextLen, hny, hnm, hnext, hnlo, hnnum⟩ := exists_following year hm hlen
  obtain ⟨n, hn, hn6⟩ : ∃ n : Nat, Gregorian.weekday (dayNumber year month 1) = n ∧ n ≤ 6 := by
    refine ⟨Int.toNat _, (Int.toNat_of_nonneg ?_).symm, ?_⟩ <;> unfold Gregorian.weekday <;> omega
  have hformat : formatDate device year (month + 1) (-1) = .ok (year, month, device.today) := by
    rw [htab.formatDate_eq, Int.add_sub_cancel, if_neg (by omega)]
  have hfirst : getDay device (Date device year month 1) = n := by
    have hvalid : Date.Valid { year := year, month := month, day := 1 } :=
      Date.valid_of_le hm (by dsimp only; omega) (by dsimp only; omega)
    have hdate := hdev.date _ hvalid htab
    rw [← hvalid.number_eq] at hdate
    simp only [NewDate, Int.add_sub_cancel, Nat.cast_one] at hdate
    rw [getDay, Device.weekday, hdate, Int.add_sub_cancel, hn]
  have hthis := createMonthData_eq (s := 1) (n := len) hlen (by omega) (by omega)
  have hprev := createMonthData_eq (s := preLen - n + 1) (n := n) hpre (by omega) (by omega)
  have hfollow := createMonthData_eq (s := 1) (n := 42 - (n + len)) hnext (by omega) (by omega)
  have hcast : ((preLen - n + 1 : Nat) : Int) = preLen - n + 1 := by omega
  rw [hcast, show preLen - n + 1 - 1 = preLen - n by omega] at hprev
  refine ⟨_, by
    simp only [solarCalendar, hformat, getSolarMonthDays_eq hlen, ok_bind, hfirst, hdev.locale, Bool.false_eq_true,
      if_false, Int.add_zero, weekStart, Int.sub_zero, if_pos (Int.natCast_nonneg n), hpy, hpm,
      getSolarMonthDays_eq hpre, pure_ok]
    rfl, ?_⟩
  dsimp only
  have hbegin : gridStart year month = dayNumber preYear preMonth 1 + (preLen - n : Nat) := by
    rw [gridStart, hn]
    omega
  have hmiddle : gridStart year month + n = dayNumber year month 1 := by
    rw [gridStart, hn]
    omega
  simp only [Nat.cast_one, Nat.sub_self, Nat.cast_zero, add_zero] at hthis hfollow
  rw [hny, hnm, hprev, ← hbegin, hthis, ← hmiddle, cellsFrom_append, cellsFrom, List.length_map, List.length_range,
    ← cellsFrom, show (7 * 6 - ((n + len : Nat) : Int)) = (42 - (n + len) : Nat) by omega, if_pos (by omega), hfollow,
    hnnum, ← hmiddle, add_assoc (gridStart year month), ← Nat.cast_add, cellsFrom_append,
    Nat.add_sub_of_le (by omega)]

/-! ## What the days get -/

/-- The lunar data of a day's entry. -/
def askOf (device : Device) (cData : DayData) : C (Except DateError LunarDay) :=
  plainSolarToLunar device cData.year cData.month cData.day

/-- Each entry with what it is to get. -/
inductive Filled (device : Device) : List DayData → List DayData → Prop where
  | nil : Filled device [] []
  | cons {cData : DayData} {lunar : Except DateError LunarDay} {cells filled : List DayData}
      (h : askOf device cData = .ok lunar) (rest : Filled device cells filled) :
      Filled device (cData :: cells) ({ cData with lunar := some lunar } :: filled)

theorem plainFillMonth_ok (device : Device) (cells : List DayData)
    (h : ∀ cData ∈ cells, ∃ lunar, askOf device cData = .ok lunar) :
    ∃ filled, plainFillMonth device cells = .ok filled ∧ Filled device cells filled := by
  induction cells with
  | nil => exact ⟨[], rfl, .nil⟩
  | cons cData cells ih =>
    obtain ⟨lunar, hlunar⟩ := h cData (by simp)
    obtain ⟨filled, hfilled, hrest⟩ := ih fun c hc => h c (List.mem_cons_of_mem _ hc)
    refine ⟨_, ?_, .cons hlunar hrest⟩
    rw [askOf] at hlunar
    rw [plainFillMonth, hlunar, ok_bind, hfilled]
    rfl

theorem plainFillMonth_error {before after : List DayData} {cData : DayData} {e : Fault}
    (h : ∀ cell ∈ before, ∃ lunar, askOf device cell = .ok lunar) (hfail : askOf device cData = .error e) :
    plainFillMonth device (before ++ cData :: after) = .error e := by
  induction before with
  | nil =>
    rw [askOf] at hfail
    rw [List.nil_append, plainFillMonth, hfail, error_bind]
  | cons cell before ih =>
    obtain ⟨lunar, hlunar⟩ := h cell (by simp)
    rw [askOf] at hlunar
    rw [List.cons_append, plainFillMonth, hlunar, ok_bind, ih fun c hc => h c (List.mem_cons_of_mem _ hc),
      error_bind]

theorem Filled.get {cells filled : List DayData} (h : Filled device cells filled) :
    filled.length = cells.length ∧ ∀ (i : Nat) cData, cells[i]? = some cData →
      ∃ lunar, askOf device cData = .ok lunar ∧ filled[i]? = some { cData with lunar := some lunar } := by
  induction h with
  | nil => exact ⟨rfl, fun i cData hi => by simp at hi⟩
  | cons hask rest ih =>
    refine ⟨by rw [List.length_cons, List.length_cons, ih.1], fun i cData hi => ?_⟩
    cases i with
    | zero =>
      obtain rfl := Option.some.inj hi
      exact ⟨_, hask, rfl⟩
    | succ i => exact ih.2 i cData hi

theorem askOf_refused (device : Device) {n : Int} (h : ¬ InTable (ofDayNumber n).year) :
    askOf device (cellOf n) = .ok (.error { error := 100, msg := errorCode.lookup 100 }) :=
  plainSolarToLunar_refused _ _ h

theorem askOf_first (device : Device) {n : Int} (htab : InTable (ofDayNumber n).year) (h : n < dayNumber 1890 0 21) :
    askOf device (cellOf n) = .error (.bounds (-1)) :=
  plainSolarToLunar_first (valid_ofDayNumber n) htab (by rwa [number_ofDayNumber])

theorem askOf_cellOf (device : Device) {n : Int} (hfirst : dayNumber 1890 0 21 ≤ n) :
    if InTable (ofDayNumber n).year then
      ∃ res, askOf device (cellOf n) = .ok (.ok res) ∧ Says device {} (ofDayNumber n) res
    else askOf device (cellOf n) = .ok (.error { error := 100, msg := errorCode.lookup 100 }) := by
  split
  · rename_i htab
    have hans : Answered (ofDayNumber n) := ⟨valid_ofDayNumber n, htab, by rwa [number_ofDayNumber]⟩
    obtain ⟨res, hres⟩ := hans.says device coherent_fresh
    exact ⟨res, ((agrees_solarToLunar device _ _ _).run' coherent_fresh).symm.trans hres, hres⟩
  · rename_i htab
    exact askOf_refused device htab

theorem gridStart_mem (htab : InTable year) (hm : month < 12) (hnot : ¬ (year = 1890 ∧ month = 0))
    {i : Nat} (hi : i < 42) :
    dayNumber 1890 0 21 ≤ gridStart year month + i ∧ gridStart year month + i < newYear 2102 := by
  have hvalid : Date.Valid { year := year, month := month, day := 1 } :=
    Date.valid_of_le hm (by dsimp only; omega) (by dsimp only; omega)
  have hmem := hvalid.number_mem
  rw [← hvalid.number_eq] at hmem
  simp only [Nat.cast_one] at hmem
  have hback : dayNumber year month 1 - 6 ≤ gridStart year month ∧
      gridStart year month ≤ dayNumber year month 1 := by
    unfold gridStart Gregorian.weekday
    omega
  have hlast : newYear 2101 + 42 < newYear 2102 := by decide
  have htop := newYear_le (y := year + 1) (m := 2101) (by have := htab.2; simp only [maxYear] at this; omega)
  refine ⟨?_, by omega⟩
  by_cases h90 : year = 1890
  · have hmonths : ∀ m < 12, m ≠ 0 → dayNumber 1890 0 21 + 7 ≤ dayNumber 1890 (m : Nat) 1 := by decide
    have := hmonths month hm fun h0 => hnot ⟨h90, h0⟩
    rw [h90] at hback
    rw [h90]
    omega
  · have hsecond : dayNumber 1890 0 21 + 7 ≤ newYear 1891 := by decide
    have := newYear_le (y := 1891) (m := year) (by have := htab.1; simp only [minYear] at this; omega)
    omega

/-- The first month of the tables: days of 1889, which are refused, and the
first of January, which is not. -/
theorem plainFillMonth_first (device : Device) :
    plainFillMonth device (cellsFrom (gridStart 1890 0) 42) = .error (.bounds (-1)) := by
  -- the year began on a Wednesday
  have hstart : gridStart 1890 0 + (3 : Nat) = newYear 1890 := by decide
  have hsplit : cellsFrom (gridStart 1890 0) 42 =
      cellsFrom (gridStart 1890 0) 3 ++ cellOf (newYear 1890) :: cellsFrom (newYear 1890 + 1) 38 := by
    rw [← cellsFrom_succ, ← hstart, cellsFrom_append]
  rw [hsplit]
  refine plainFillMonth_error (fun cell hcell => ?_) ?_
  · obtain ⟨i, hi, rfl⟩ := List.mem_map.mp hcell
    have hi' := List.mem_range.mp hi
    have hout : ¬ InTable (ofDayNumber (gridStart 1890 0 + i)).year := by
      intro htab
      have hmem := (valid_ofDayNumber (gridStart 1890 0 + i)).number_mem
      rw [number_ofDayNumber] at hmem
      have := newYear_le (y := 1890) htab.1
      omega
    exact ⟨_, askOf_refused device hout⟩
  · have hyear : (ofDayNumber (newYear 1890)).year = 1890 := year_ofDayNumber (le_refl _) (newYear_lt (by omega))
    exact askOf_first device (by rw [hyear]; decide) (by decide)

/-- **The calendar of a month.** On a Gregorian device every month of 1890 to
2100 but the first gets its 42 days, each with what the lunar calendar says of
it; only days of 2101 are refused. January 1890 fails. -/
theorem calendar_answers (hdev : device.Gregorian) (htab : InTable year) (hm : month < 12)
    (hco : memoryCache.Coherent) :
    let answer := (calendar device year (month + 1)).run' memoryCache
    if year = 1890 ∧ month = 0 then answer = .error (.bounds (-1))
    else ∃ data, answer = .ok (.ok data) ∧ data.monthData.length = 42 ∧
      ∀ i : Nat, i < 42 → ∃ lunar, data.monthData[i]? =
          some { cellOf (gridStart year month + i) with lunar := some lunar } ∧
        let c := ofDayNumber (gridStart year month + i)
        if c.year = 2101 then lunar = .error { error := 100, msg := errorCode.lookup 100 }
        else ∃ res, lunar = .ok res ∧ Says device {} c res := by
  intro answer
  have hplain : answer = plainCalendar device year (month + 1) := (agrees_calendar device _ _).run' hco
  obtain ⟨data, hdata, hcells⟩ := solarCalendar_eq hdev htab hm
  have hformat : formatDate device year (month + 1) (-1) = .ok (year, month, device.today) := by
    rw [htab.formatDate_eq, Int.add_sub_cancel, if_neg (by omega)]
  rw [hplain]
  simp only [plainCalendar, hformat, hdata, ok_bind, hcells]
  by_cases hfirst : year = 1890 ∧ month = 0
  · rw [if_pos hfirst, hfirst.1, hfirst.2, plainFillMonth_first, error_bind]
  · rw [if_neg hfirst]
    have hask : ∀ i : Nat, i < 42 → ∃ lunar, askOf device (cellOf (gridStart year month + i)) = .ok lunar ∧
        if (ofDayNumber (gridStart year month + i)).year = 2101 then
          lunar = .error { error := 100, msg := errorCode.lookup 100 }
        else ∃ res, lunar = .ok res ∧ Says device {} (ofDayNumber (gridStart year month + i)) res := by
      intro i hi
      obtain ⟨hlo, hhi⟩ := gridStart_mem htab hm hfirst hi
      have hmem := (valid_ofDayNumber (gridStart year month + i)).number_mem
      rw [number_ofDayNumber] at hmem
      have hle : (ofDayNumber (gridStart year month + i)).year ≤ 2101 := by
        by_contra hgt
        have := newYear_le (y := 2102) (m := (ofDayNumber (gridStart year month + i)).year) (by omega)
        omega
      have hge : minYear ≤ (ofDayNumber (gridStart year month + i)).year := by
        by_contra hlt
        have := newYear_le (y := (ofDayNumber (gridStart year month + i)).year + 1) (m := 1890)
          (by simp only [minYear] at hlt; omega)
        have : newYear 1890 ≤ dayNumber 1890 0 21 := by decide
        omega
      have hask := askOf_cellOf device hlo
      by_cases hafter : (ofDayNumber (gridStart year month + i)).year = 2101
      · rw [if_neg (by rw [hafter]; decide)] at hask
        exact ⟨_, hask, by rw [if_pos hafter]⟩
      · rw [if_pos ⟨hge, by simp only [maxYear]; omega⟩] at hask
        obtain ⟨res, hres, hsays⟩ := hask
        exact ⟨_, hres, by rw [if_neg hafter]; exact ⟨res, rfl, hsays⟩⟩
    obtain ⟨filled, hfilled, hfill⟩ := plainFillMonth_ok device (cellsFrom (gridStart year month) 42)
      fun cell hcell => by
        obtain ⟨i, hi, rfl⟩ := List.mem_map.mp hcell
        obtain ⟨lunar, hlunar, -⟩ := hask i (List.mem_range.mp hi)
        exact ⟨lunar, hlunar⟩
    obtain ⟨hlen, hget⟩ := hfill.get
    refine ⟨{ data with monthData := filled }, by rw [hfilled]; rfl, by simp [hlen, cellsFrom], fun i hi => ?_⟩
    obtain ⟨lunar, hlunar, hsays⟩ := hask i hi
    obtain ⟨lunar', hlunar', hcell⟩ := hget i (cellOf (gridStart year month + i)) (by simp [cellsFrom, hi])
    obtain rfl : lunar' = lunar := Except.ok.inj (hlunar'.symm.trans hlunar)
    exact ⟨lunar', hcell, hsays⟩

/-- February 2018, on a device in GMT. -/
theorem calendar_answers_2018 :
    let answer := (calendar gmtDevice 2018 (1 + 1)).run' {}
    if (2018 : Int) = 1890 ∧ 1 = 0 then answer = .error (.bounds (-1))
    else ∃ data, answer = .ok (.ok data) ∧ data.monthData.length = 42 ∧
      ∀ i : Nat, i < 42 → ∃ lunar, data.monthData[i]? =
          some { cellOf (gridStart 2018 1 + i) with lunar := some lunar } ∧
        let c := ofDayNumber (gridStart 2018 1 + i)
        if c.year = 2101 then lunar = .error { error := 100, msg := errorCode.lookup 100 }
        else ∃ res, lunar = .ok res ∧ Says gmtDevice {} c res :=
  calendar_answers gregorian_gmtDevice (by decide) (by decide) coherent_fresh

end LearningDemo.LunarCore
