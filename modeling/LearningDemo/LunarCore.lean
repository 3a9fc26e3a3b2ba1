/-
The lunar calendar of `LunarCore.m`, with the manager of the calendar view
that asks it. Instants are seconds from 1970, months count from 0 inside the
core and from 1 at its edges, as in the source.

`NSCalendar` is the Gregorian calendar of the library, which it follows from 15
October 1582 on, long before the first year of the tables; what depends on the
device (its zone, its calendar, its locale, the day it is) is a `Device`.
-/
import LearningDemo.LunarTables
import LearningDemo.Lib.Gregorian
import LearningDemo.Lib.Cells

namespace LearningDemo.LunarCore

open Imperative Gregorian

def minYear : Int := 1890
def maxYear : Int := 2100
def weekStart : Int := 0

def errorCode : List (Nat × String) :=
  [(100, "输入的年份超过了可查询范围，仅支持1891至2100年"), (101, "参数输入错误，请查阅文档")]

/-! ## Dates of the device -/

structure Device where
  /-- `dateFromComponents:` of the current calendar; the month counts from 1. -/
  dateFromComponents : Int → Int → Int → Int
  /-- The zone: seconds ahead of GMT, at each instant. -/
  secondsFromGMT : Int → Int
  localeIdentifier : String
  /-- The day of the month it is in GMT. -/
  today : Int

/-- The local day an instant falls in. -/
def Device.day (device : Device) (t : Int) : Int :=
  (t + device.secondsFromGMT t) / 86400 + newYear 1970

/-- The weekday component of an instant, 1 for Sunday. -/
def Device.weekday (device : Device) (t : Int) : Int := Gregorian.weekday (device.day t) + 1

/-- `dateFromComponents:` of the Gregorian calendar in GMT. -/
def gmtDate (year month day : Int) : Int := 86400 * (dayNumber year (month - 1) day - newYear 1970)

def Date (device : Device) (year month day : Int) : Int :=
  device.dateFromComponents year (month + 1) day

def NewDate (device : Device) (year month day : Int) : Int := Date device year (month - 1) day

def getDaysBetweenSolar (year month day year1 month1 day1 : Int) : Int :=
  (gmtDate year1 (month1 + 1) day1 - gmtDate year (month + 1) day).tdiv 86400

def getDay (device : Device) (date : Int) : Int := device.weekday date - 1

def isLeapYear (year : Int) : Bool :=
  (year.tmod 4 == 0 && year.tmod 100 != 0) || year.tmod 400 == 0

def solarDaysOfMonth : List Int := [31, 0, 31, 30, 31, 30, 31, 31, 30, 31, 30, 31]

def getSolarMonthDays (year month : Int) : C Int :=
  if month = 1 then pure (if isLeapYear year then 29 else 28) else load solarDaysOfMonth month

/-! ## Keys and dictionaries -/

/-- `%02d`. -/
def pad2 (n : Int) : String := if 0 ≤ n ∧ n < 10 then "0" ++ toString n else toString n

def formatDay (month day : Int) : String := "d" ++ pad2 (month + 1) ++ pad2 day

/-- The value under a key of the form `d0204`. -/
def lookupDay {α : Type} (table : List (Nat × α)) (key : String) : Option α :=
  (table.find? fun e => formatDay ((e.1 / 100 : Nat) - 1) (e.1 % 100 : Nat) == key).map Prod.snd

/-- The value under a key of the form `0521`. -/
def lookupWeek (table : List (Nat × String)) (key : String) : Option String :=
  (table.find? fun e =>
    pad2 (e.1 / 100 : Nat) ++ toString (e.1 / 10 % 10) ++ toString (e.1 % 10) == key).map Prod.snd

/-! ## The cache of the solar terms -/

/-- The solar terms of a year by their days. -/
abbrev TermList := List (String × String)

structure LCMemoryCache where
  current : Int := 0
  cache : List (String × TermList) := []
  deriving DecidableEq

namespace LCMemoryCache

def get (memoryCache : LCMemoryCache) (key : String) : Option TermList := memoryCache.cache.lookup key

def setKey (memoryCache : LCMemoryCache) (key : String) (value : TermList) : LCMemoryCache :=
  { memoryCache with cache := (key, value) :: memoryCache.cache }

def clear (memoryCache : LCMemoryCache) : LCMemoryCache := { memoryCache with cache := [] }

def setCurrent (memoryCache : LCMemoryCache) (current : Int) : LCMemoryCache :=
  if memoryCache.current ≠ current then { memoryCache with current := current }.clear else memoryCache

end LCMemoryCache

/-- The keys of a year's solar terms. -/
def solarTerms (year : Int) : Option (List String) :=
  if minYear ≤ year then
    solarTermRows[(year - minYear).toNat]?.map fun row =>
      row.map fun n => formatDay ((n / 100 : Nat) - 1) (n % 100 : Nat)
  else none

/-- `enumerateObjectsUsingBlock:` of the keys, from index `idx` on. -/
def enumerateTerms : List String → Int → TermList → C TermList
  | [], _, res => pure res
  | key :: keys, idx, res => do
    let name ← load solarTerm idx
    enumerateTerms keys (idx + 1) ((key, name) :: res)

def getYearTerm (year : Int) : C TermList :=
  match solarTerms year with
  | none => pure []
  | some keys => enumerateTerms keys 0 []

/-! ## Lunar years -/

/-- The row of a lunar year. -/
def yearData (year : Int) : C (Nat × Int × Int × Nat) := load lunarInfo (year - minYear)

def getLunarLeapYear (year : Int) : C Nat := do
  let yearData ← yearData year
  pure yearData.1

/-- The binary digits of `num`, the lowest first. `num` turns are enough. -/
def toStringLoop : Nat → Nat → List Nat
  | 0, _ => []
  | turns + 1, num => if num = 0 then [] else (num &&& 1) :: toStringLoop turns (num >>> 1)

def toString (num : Nat) : List Nat := (toStringLoop num num).reverse

/-- `16-monthDataArr.count`, of unsigned numbers. -/
def missing (count : Nat) : Nat := (16 + 2 ^ 64 - count) % 2 ^ 64

/-- `for (int i=0; i<16-monthDataArr.count; ++i)`: a zero is put in front.
The turns given are enough unless there are more than 16 digits. -/
def padZeros (monthDataArr : List Nat) : C (List Nat) := do
  let c : Nat × List Nat → C Bool := fun s => pure (decide (s.1 < missing s.2.length))
  let s ← whileLoop c (fun s => pure (s.1 + 1, 0 :: s.2)) 17 (0, monthDataArr)
  pure s.2

structure LunarYearDays where
  yearDays : Int
  monthDays : List Int
  deriving DecidableEq, Repr

/-- The loop body of `getLunarYearDays`. -/
def addMonth (monthDataArr : List Nat) (i : Int) (s : LunarYearDays) : C LunarYearDays := do
  let bit ← load monthDataArr i
  if bit = 0 then
    pure { yearDays := s.yearDays + 29, monthDays := s.monthDays ++ [29] }
  else
    pure { yearDays := s.yearDays + 30, monthDays := s.monthDays ++ [30] }

def getLunarYearDays (year : Int) : C LunarYearDays := do
  let yearData ← yearData year
  let monthDataArr ← padZeros (toString yearData.2.2.2)
  let len : Int := if yearData.1 ≠ 0 then 13 else 12
  forRange 0 len (addMonth monthDataArr) { yearDays := 0, monthDays := [] }

/-- A lunar date; the month is its index in the year, the leap month counted. -/
structure LunarDate where
  year : Int
  month : Int
  day : Int
  deriving DecidableEq, Repr

/-- The loop of `getLunarDateByBetween` from month `i` on: `month` and `tempDays`. -/
def findMonth (last : Int) : List Int → Int → Int → Int × Int
  | [], _, tempDays => (0, tempDays)
  | monthDaysI :: monthDays, i, tempDays =>
    if last < tempDays + monthDaysI then (i, tempDays)
    else findMonth last monthDays (i + 1) (tempDays + monthDaysI)

def getLunarDateByBetween (year between : Int) : C LunarDate := do
  let lunarYearDays ← getLunarYearDays year
  let last := if 0 < between then between else lunarYearDays.yearDays - between.natAbs
  let found := findMonth last lunarYearDays.monthDays 0 0
  pure { year := year, month := found.1, day := last - found.2 + 1 }

def getLunarByBetween (year month day : Int) : C LunarDate := do
  let yearData ← yearData year
  let between := getDaysBetweenSolar year (yearData.2.1 - 1) yearData.2.2.1 year month day
  if between = 0 then pure { year := year, month := 0, day := 1 }
  else getLunarDateByBetween (if 0 < between then year else year - 1) between

/-! ## Names of years -/

def getYearZodiac (year : Int) : C String := load zodiac ((year - 1890 + 25).tmod 12)

def cyclical (num : Int) : C String := do
  let tiangan ← load heavenlyStems (num.tmod 10)
  let dizhi ← load earthlyBranches (num.tmod 12)
  pure (tiangan ++ dizhi)

def getLunarYearName (year offset : Int) : C String := cyclical (year - 1890 + 25 + offset)

/-! ## Festivals of weeks -/

/-- The count of the days `curDay`, …, `day` on the weekday. -/
def countWeekDays (device : Device) (year month weekDay : Int) : Nat → Int → Int → Int
  | 0, _, weekDayCount => weekDayCount
  | turns + 1, curDay, weekDayCount =>
    countWeekDays device year month weekDay turns (curDay + 1)
      (if device.weekday (NewDate device year month curDay) = weekDay then weekDayCount + 1
       else weekDayCount)

def getWeekFestival (device : Device) (year month day : Int) : Option String :=
  let weekDay := device.weekday (NewDate device year month day)
  let weekDayCount := countWeekDays device year month weekDay day.toNat 1 0
  lookupWeek weekFestival (pad2 month ++ s!"{weekDayCount}" ++ s!"{weekDay}")

/-! ## From the solar to the lunar calendar -/

/-- The dictionary of a date that is refused. -/
structure DateError where
  error : Nat
  msg : Option String
  deriving DecidableEq

def formatDate (device : Device) (year month day : Int) : Except DateError (Int × Int × Int) :=
  if year < (if minYear ≠ 0 then minYear else minYear + 1) ∨ year > maxYear then
    .error { error := 100, msg := errorCode.lookup 100 }
  else .ok (year, month - 1, if 0 < day then day else device.today)

def isNewLunarYear (year month day : Int) : C Bool := do
  let springFestivalDate ← load springFestival (year - minYear)
  if springFestivalDate.1 < month then pure true
  else if month = springFestivalDate.1 then pure (decide (springFestivalDate.2 ≤ day))
  else pure false

/-- The dictionary of a date. -/
structure LunarDay where
  lunarDay : Int
  lunarMonthName : String
  lunarDayName : String
  solarFestival : String
  lunarFestival : String
  weekFestival : String
  worktime : Nat
  GanZhiYear : String
  zodiac : String
  term : String
  deriving DecidableEq

/-- Code that has the cache at hand. -/
abbrev M := StateT LCMemoryCache C

/-- The terms of a year, which becomes the cache's: found in the cache or put there. -/
def termListOf (year : Int) : M TermList := do
  modify fun memoryCache => memoryCache.setCurrent year
  match (← get).get "termList" with
  | some termList => pure termList
  | none => do
    let termList ← getYearTerm year
    modify fun memoryCache => memoryCache.setKey "termList" termList
    pure termList

/-- The name of a month, in a year with this leap month. -/
def lunarMonthName (lunarLeapMonth lunarMonth : Int) : C String := do
  if 0 < lunarLeapMonth ∧ lunarLeapMonth = lunarMonth then
    let mStr ← load monthCn (lunarMonth - 1)
    pure ("闰" ++ mStr ++ "月")
  else if 0 < lunarLeapMonth ∧ lunarLeapMonth < lunarMonth then
    let mStr ← load monthCn (lunarMonth - 1)
    pure (mStr ++ "月")
  else
    let mStr ← load monthCn lunarMonth
    pure (mStr ++ "月")

/-- Whether a lunar date is the last of a year with these months. -/
def isLastDay (lunarMonthDays : List Int) (lunarDate : LunarDate) : C Bool :=
  let count : Int := lunarMonthDays.length
  if lunarDate.month = count - 1 then do
    let lastDays ← load lunarMonthDays (count - 1)
    pure (decide (lunarDate.day = lastDays))
  else pure false

/-- The festival of a lunar date, in a year with this leap month and these months. -/
def lunarFtv (lunarLeapMonth : Int) (lunarMonthDays : List Int) (lunarDate : LunarDate) :
    C (Option String) := do
  if ← isLastDay lunarMonthDays lunarDate then pure (lookupDay lunarFestival "d0100")
  else if 0 < lunarLeapMonth ∧ lunarLeapMonth ≤ lunarDate.month then
    pure (lookupDay lunarFestival (formatDay (lunarDate.month - 1) lunarDate.day))
  else pure (lookupDay lunarFestival (formatDay lunarDate.month lunarDate.day))

/-- What the calendar says of a lunar date, but for the terms. -/
def lunarDayOf (device : Device) (year month day GanZhiYear : Int) (lunarDate : LunarDate)
    (termList : TermList) : C LunarDay := do
  let lunarLeapMonth ← getLunarLeapYear lunarDate.year
  let monthName ← lunarMonthName lunarLeapMonth lunarDate.month
  let lunarYearDays ← getLunarYearDays lunarDate.year
  let ftv ← lunarFtv lunarLeapMonth lunarYearDays.monthDays lunarDate
  let dayKey := formatDay month day
  let dayName ← load dateCn (lunarDate.day - 1)
  let ganZhi ← getLunarYearName GanZhiYear 0
  let animal ← getYearZodiac GanZhiYear
  pure {
    lunarDay := lunarDate.day
    lunarMonthName := monthName
    lunarDayName := dayName
    solarFestival := (lookupDay solarFestival dayKey).getD ""
    lunarFestival := ftv.getD ""
    weekFestival := (getWeekFestival device year (month + 1) day).getD ""
    worktime := ((worktime.lookup s!"y{year}").bind fun days => lookupDay days dayKey).getD 0
    GanZhiYear := ganZhi
    zodiac := animal
    term := (termList.lookup dayKey).getD "" }

/-- `solarToLunar` from the terms on: the year of the stems, the lunar date and its names. -/
def solarToLunarWith (device : Device) (_year _month _day year month day : Int) (termList : TermList) :
    C LunarDay := do
  let GanZhiYear := if ← isNewLunarYear _year _month _day then year + 1 else year
  let lunarDate ← getLunarByBetween year month day
  lunarDayOf device year month day GanZhiYear lunarDate termList

def solarToLunar (device : Device) (_year _month _day : Int) : M (Except DateError LunarDay) :=
  match formatDate device _year _month _day with
  | .error inputDate => pure (.error inputDate)
  | .ok (year, month, day) => do
    let termList ← termListOf year
    let res ← solarToLunarWith device _year _month _day year month day termList
    pure (.ok res)

/-! ## The calendar of a month -/

/-- A day of a month's calendar, with what `solarToLunar` says of it. -/
structure DayData where
  year : Int
  month : Int
  day : Int
  lunar : Option (Except DateError LunarDay) := none

def createMonthData (year month len start : Int) : List DayData :=
  if len < 1 then []
  else (List.range len.toNat).map fun i : Nat => { year := year, month := month, day := start + i }

structure MonthCalendar where
  firstDay : Int
  monthDays : Int
  monthData : List DayData

def hasSuffix (identifier suffix : String) : Bool := suffix.toList.isSuffixOf identifier.toList

def solarCalendar (device : Device) (_year _month : Int) : C (Except DateError MonthCalendar) :=
  match formatDate device _year _month (-1) with
  | .error inputDate => pure (.error inputDate)
  | .ok (year, month, _) => do
    let firstDate := Date device year month 1
    let monthDays ← getSolarMonthDays year month
    let monthData := createMonthData year (month + 1) monthDays 1
    let identifier := device.localeIdentifier.toLower
    let firstDay := getDay device firstDate +
      if hasSuffix identifier "japanese" || hasSuffix identifier "buddhist" then 1 else 0
    let moveDays := if weekStart ≤ firstDay then firstDay else firstDay + 7
    let preFillDays := moveDays - weekStart
    let preYear := if month - 1 < 0 then year - 1 else year
    let preMonth := if month - 1 < 0 then 11 else month - 1
    let preMonthDays ← getSolarMonthDays preYear preMonth
    let monthData := createMonthData preYear (preMonth + 1) preFillDays (preMonthDays - preFillDays + 1)
      ++ monthData
    let fillLen := 7 * 6 - (monthData.length : Int)
    let nextYear := if 11 < month + 1 then year + 1 else year
    let nextMonth := if 11 < month + 1 then 0 else month + 1
    let monthData :=
      if fillLen ≠ 0 then monthData ++ createMonthData nextYear (nextMonth + 1) fillLen 1 else monthData
    pure (.ok { firstDay := getDay device firstDate, monthDays := monthDays, monthData := monthData })

/-- The loop of `calendar`: each day gets its lunar data. -/
def fillMonth (device : Device) : List DayData → M (List DayData)
  | [] => pure []
  | cData :: monthData => do
    let lunarData ← solarToLunar device cData.year cData.month cData.day
    let rest ← fillMonth device monthData
    pure ({ cData with lunar := some lunarData } :: rest)

def calendar (device : Device) (_year _month : Int) : M (Except DateError MonthCalendar) :=
  match formatDate device _year _month (-1) with
  | .error inputDate => pure (.error inputDate)
  | .ok (year, month, _) => do
    match ← solarCalendar device year (month + 1) with
    | .error calendarData => pure (.error calendarData)
    | .ok calendarData => do
      let monthData ← fillMonth device calendarData.monthData
      pure (.ok { calendarData with monthData := monthData })

/-! ## From the lunar to the solar calendar -/

end LearningDemo.LunarCore

namespace LearningDemo.NNLunarCalenderManager

open Imperative Gregorian LunarCore

def lunarDayOfSolarDay (device : Device) (date : Int) : M (Except DateError LunarDay) :=
  let components := ofDayNumber (device.day date)
  solarToLunar device components.year (components.month + 1) components.day

/-- The text under a day: its solar term, or else the name of the lunar day.
A refused date has no `term`, which is not equal to `""`. -/
def dayStringOfSoloarDay (device : Device) (date : Int) : M (Option String) := do
  match ← lunarDayOfSolarDay device date with
  | .error _ => pure none
  | .ok dict => pure (some (if dict.term ≠ "" then dict.term else dict.lunarDayName))

end LearningDemo.NNLunarCalenderManager
