/-
The cache of the solar terms is never seen: whatever was asked before, every
answer of the calendar is the one a fresh cache gives.

`setCurrent` empties the cache when the year changes, so what is found in it
are the terms of the year it was last set to.
-/
import LearningDemo.LunarCore
import LearningDemo.Lib.Memo

namespace LearningDemo.LunarCore

open Imperative Gregorian Memo

/-- The terms in the cache are those of its current year. -/
def LCMemoryCache.Coherent (memoryCache : LCMemoryCache) : Prop :=
  ∀ termList, memoryCache.get "termList" = some termList → getYearTerm memoryCache.current = .ok termList

theorem coherent_fresh : LCMemoryCache.Coherent {} := by
  intro termList h
  simp [LCMemoryCache.get] at h

variable {memoryCache : LCMemoryCache} {device : Device}

theorem LCMemoryCache.Coherent.setCurrent (h : memoryCache.Coherent) (year : Int) :
    (memoryCache.setCurrent year).Coherent ∧ (memoryCache.setCurrent year).current = year := by
  unfold LCMemoryCache.setCurrent
  by_cases hyear : memoryCache.current ≠ year
  · rw [if_pos hyear]
    refine ⟨fun termList hget => ?_, rfl⟩
    simp [LCMemoryCache.get, LCMemoryCache.clear] at hget
  · rw [if_neg hyear]
    exact ⟨h, by simpa using hyear⟩

theorem agrees_termListOf (year : Int) :
    Agrees LCMemoryCache.Coherent (termListOf year) (getYearTerm year) := by
  intro memoryCache hco
  obtain ⟨hset, hcur⟩ := hco.setCurrent year
  cases hget : (memoryCache.setCurrent year).get "termList" with
  | some termList =>
    have hterm := hset termList hget
    rw [hcur] at hterm
    refine .inl ⟨termList, memoryCache.setCurrent year, ?_, hterm, hset⟩
    simp [termListOf, hget]
  | none =>
    cases hterm : getYearTerm year with
    | error e =>
      refine .inr ⟨e, ?_, rfl⟩
      simp [termListOf, hget, hterm]
    | ok termList =>
      refine .inl ⟨termList, (memoryCache.setCurrent year).setKey "termList" termList, ?_, rfl,
        fun found hfound => ?_⟩
      · simp [termListOf, hget, hterm]
      · simp only [LCMemoryCache.get, LCMemoryCache.setKey, List.lookup_cons, BEq.rfl, Option.some.injEq] at hfound
        subst hfound
        rw [← hterm]
        simp only [LCMemoryCache.setKey, hcur]

/-! ## The answers without a cache -/

def plainSolarToLunar (device : Device) (_year _month _day : Int) : C (Except DateError LunarDay) :=
  match formatDate device _year _month _day with
  | .error inputDate => pure (.error inputDate)
  | .ok (year, month, day) => do
    let termList ← getYearTerm year
    let res ← solarToLunarWith device _year _month _day year month day termList
    pure (.ok res)

def plainFillMonth (device : Device) : List DayData → C (List DayData)
  | [] => pure []
  | cData :: monthData => do
    let lunarData ← plainSolarToLunar device cData.year cData.month cData.day
    let rest ← plainFillMonth device monthData
    pure ({ cData with lunar := some lunarData } :: rest)

def plainCalendar (device : Device) (_year _month : Int) : C (Except DateError MonthCalendar) :=
  match formatDate device _year _month (-1) with
  | .error inputDate => pure (.error inputDate)
  | .ok (year, month, _) => do
    match ← solarCalendar device year (month + 1) with
    | .error calendarData => pure (.error calendarData)
    | .ok calendarData => do
      let monthData ← plainFillMonth device calendarData.monthData
      pure (.ok { calendarData with monthData := monthData })

def plainDayString (device : Device) (date : Int) : C (Option String) := do
  let components := ofDayNumber (device.day date)
  match ← plainSolarToLunar device components.year (components.month + 1) components.day with
  | .error _ => pure none
  | .ok dict => pure (some (if dict.term ≠ "" then dict.term else dict.lunarDayName))

theorem agrees_solarToLunar (device : Device) (year month day : Int) :
    Agrees LCMemoryCache.Coherent (solarToLunar device year month day)
      (plainSolarToLunar device year month day) := by
  unfold solarToLunar plainSolarToLunar
  rcases formatDate device year month day with e | ⟨y, m, d⟩
  · exact agrees_pure (Except.error e)
  · refine (agrees_termListOf y).bind fun termList => ?_
    exact (agrees_lift (solarToLunarWith device year month day y m d termList)).bind fun res =>
      agrees_pure (Except.ok res)

theorem agrees_fillMonth (device : Device) (monthData : List DayData) :
    Agrees LCMemoryCache.Coherent (fillMonth device monthData) (plainFillMonth device monthData) := by
  induction monthData with
  | nil => exact agrees_pure []
  | cons cData monthData ih =>
    exact (agrees_solarToLunar device cData.year cData.month cData.day).bind fun lunarData =>
      ih.bind fun rest => agrees_pure ({ cData with lunar := some lunarData } :: rest)

theorem agrees_calendar (device : Device) (year month : Int) :
    Agrees LCMemoryCache.Coherent (calendar device year month) (plainCalendar device year month) := by
  unfold calendar plainCalendar
  rcases formatDate device year month (-1) with e | ⟨y, m, d⟩
  · exact agrees_pure (Except.error e)
  · refine (agrees_lift (solarCalendar device y (m + 1))).bind fun data => ?_
    cases data with
    | error calendarData => exact agrees_pure (Except.error calendarData)
    | ok calendarData =>
      exact (agrees_fillMonth device calendarData.monthData).bind fun monthData =>
        agrees_pure (Except.ok { calendarData with monthData := monthData })

theorem agrees_dayString (device : Device) (date : Int) :
    Agrees LCMemoryCache.Coherent (NNLunarCalenderManager.dayStringOfSoloarDay device date)
      (plainDayString device date) := by
  refine (agrees_solarToLunar device _ _ _).bind fun dict => ?_
  cases dict with
  | error e => exact agrees_pure none
  | ok dict => exact agrees_pure _

/-! ## Runs of requests -/

/-- What the calendar is asked. -/
inductive Request where
  | day (year month day : Int)
  | month (year month : Int)
  | dayString (date : Int)

inductive Answer where
  | day (data : Except DateError LunarDay)
  | month (data : Except DateError MonthCalendar)
  | dayString (text : Option String)

def serve (device : Device) : Request → M Answer
  | .day year month day => do pure (.day (← solarToLunar device year month day))
  | .month year month => do pure (.month (← calendar device year month))
  | .dayString date => do pure (.dayString (← NNLunarCalenderManager.dayStringOfSoloarDay device date))

def plainServe (device : Device) : Request → C Answer
  | .day year month day => do pure (.day (← plainSolarToLunar device year month day))
  | .month year month => do pure (.month (← plainCalendar device year month))
  | .dayString date => do pure (.dayString (← plainDayString device date))

theorem agrees_serve (device : Device) (request : Request) :
    Agrees LCMemoryCache.Coherent (serve device request) (plainServe device request) := by
  cases request with
  | day year month day =>
    exact (agrees_solarToLunar device year month day).bind fun data => agrees_pure (Answer.day data)
  | month year month => exact (agrees_calendar device year month).bind fun data => agrees_pure (Answer.month data)
  | dayString date => exact (agrees_dayString device date).bind fun text => agrees_pure (Answer.dayString text)

/-- **The cache is never seen.** In every run of requests each answer is the
one that is found without a cache, and the run fails exactly where one of them does. -/
theorem serve_without_cache (device : Device) (requests : List Request) :
    (requests.mapM (serve device)).run' {} = requests.mapM (plainServe device) :=
  run_mapM (agrees_serve device) coherent_fresh requests

end LearningDemo.LunarCore
