/-
The Gregorian calendar: the number of a day, counted from 1 January of the
year 1, the date of a day number, and that each is the inverse of the other.
Years are any integers; a month is its index in the year, a day counts from 1.
-/
import LearningDemo.Lib.Blocks
import Mathlib.Tactic.Ring

namespace Gregorian
open Blocks

/-- Years of 366 days. -/
def leap (y : Int) : Bool := y % 4 == 0 && y % 100 != 0 || y % 400 == 0

/-- The lengths of a year's months. -/
def monthLens (leap : Bool) : List Nat :=
  [31, if leap then 29 else 28, 31, 30, 31, 30, 31, 31, 30, 31, 30, 31]

def yearLen (leap : Bool) : Nat := if leap then 366 else 365

/-- The number of 1 January of a year. -/
def newYear (y : Int) : Int := 365 * (y - 1) + (y - 1) / 4 - (y - 1) / 100 + (y - 1) / 400

structure Date where
  year : Int
  month : Nat
  day : Nat
  deriving DecidableEq, Repr, Inhabited

/-- A day of the calendar. -/
def Date.Valid (c : Date) : Prop := 1 ≤ c.day ∧ Place (monthLens (leap c.year)) c.month (c.day - 1)

/-- The number of a day. A month outside the year is a month of the years
before or after, a day outside its month runs on. -/
def dayNumber (y m d : Int) : Int :=
  newYear (y + m / 12) + offset (monthLens (leap (y + m / 12))) (m % 12).toNat 0 + (d - 1)

/-- The lengths of the years of an era, 400 years from a year 1 on. -/
def eraLens : List Nat := (List.range 400).map fun i : Nat => yearLen (leap ((i : Int) + 1))

/-- The date of a day number. -/
def ofDayNumber (n : Int) : Date :=
  match locate eraLens (n % 146097).toNat with
  | none => default
  | some (i, k) =>
    let y := 400 * (n / 146097) + i + 1
    match locate (monthLens (leap y)) k with
    | none => default
    | some (m, r) => { year := y, month := m, day := r + 1 }

/-- The weekday of a day number, 0 for Sunday. -/
def weekday (n : Int) : Int := (n + 1) % 7

variable {y m d n : Int} {c c' : Date}

/-! ## Years -/

theorem newYear_succ : newYear (y + 1) = newYear y + yearLen (leap y) := by
  unfold newYear yearLen leap
  by_cases h4 : y % 4 = 0 <;> by_cases h100 : y % 100 = 0 <;> by_cases h400 : y % 400 = 0 <;>
    simp [h4, h100, h400] <;> omega

theorem yearLen_le (b : Bool) : 365 ≤ yearLen b ∧ yearLen b ≤ 366 := by
  cases b <;> simp [yearLen]

@[simp] theorem sum_monthLens (b : Bool) : (monthLens b).sum = yearLen b := by
  cases b <;> rfl

@[simp] theorem length_monthLens (b : Bool) : (monthLens b).length = 12 := rfl

theorem newYear_lt (h : y < m) : newYear y < newYear m := by
  unfold newYear
  omega

theorem newYear_le (h : y ≤ m) : newYear y ≤ newYear m := by
  unfold newYear
  omega

theorem leap_add_era (k : Int) : leap (400 * k + y) = leap y := by
  have h4 : (400 * k + y) % 4 = y % 4 := by omega
  have h100 : (400 * k + y) % 100 = y % 100 := by omega
  have h400 : (400 * k + y) % 400 = y % 400 := by omega
  simp only [leap, h4, h100, h400]

/-- The first days of an era are the first days of its years. -/
theorem newYear_era (k : Int) (i : Nat) (hi : i ≤ 400) :
    newYear (400 * k + i + 1) = 146097 * k + offset eraLens i 0 := by
  induction i with
  | zero => simp [newYear]; omega
  | succ i ih =>
    have hlen : eraLens[i]? = some (yearLen (leap ((i : Int) + 1))) := by
      rw [eraLens, List.getElem?_map, List.getElem?_range (by omega)]
      rfl
    have hoff : offset eraLens (i + 1) 0 = offset eraLens i 0 + yearLen (leap ((i : Int) + 1)) := by
      simp [offset, List.take_add_one, hlen]
    have hstep : newYear (400 * k + i + 1 + 1)
        = newYear (400 * k + i + 1) + yearLen (leap (400 * k + i + 1)) := newYear_succ
    have hleap : leap (400 * k + i + 1) = leap ((i : Int) + 1) := by
      rw [add_assoc]
      exact leap_add_era k
    rw [hleap, ih (by omega)] at hstep
    have hi' : (400 * k + ((i + 1 : Nat) : Int) + 1) = 400 * k + i + 1 + 1 := by omega
    rw [hi', hoff, hstep]
    omega

theorem sum_eraLens : eraLens.sum = 146097 := by
  have h := newYear_era 0 400 (by omega)
  have hlen : offset eraLens 400 0 = eraLens.sum := by
    rw [offset, List.take_of_length_le (by simp [eraLens]), Nat.add_zero]
  rw [hlen] at h
  simp only [newYear] at h
  omega

/-! ## Dates -/

theorem dayNumber_add_day (k : Int) : dayNumber y m (d + k) = dayNumber y m d + k := by
  unfold dayNumber
  ring

/-- The day number of a date, month and year read as they stand. -/
def Date.number (c : Date) : Int := newYear c.year + offset (monthLens (leap c.year)) c.month (c.day - 1)

theorem Date.Valid.month_lt (h : c.Valid) : c.month < 12 := h.2.lt_length

theorem Date.Valid.day_le (h : c.Valid) : c.day ≤ 31 := by
  obtain ⟨-, len, hlen, hlt⟩ := h
  have hlens : ∀ b, ∀ len ∈ monthLens b, len ≤ 31 := by decide
  have := hlens _ len (List.mem_of_getElem? hlen)
  omega

theorem Date.valid_of_le (hm : c.month < 12) (hd : 1 ≤ c.day) (hd' : c.day ≤ 28) : c.Valid := by
  have hlens : ∀ b, ∀ len ∈ monthLens b, 28 ≤ len := by decide
  have hlt : c.month < (monthLens (leap c.year)).length := hm
  refine ⟨hd, _, List.getElem?_eq_getElem hlt, ?_⟩
  have := hlens _ _ (List.getElem_mem hlt)
  omega

theorem Date.Valid.number_eq (h : c.Valid) : dayNumber c.year c.month c.day = c.number := by
  have hm := h.month_lt
  have hq : (c.month : Int) / 12 = 0 := by omega
  have hr : ((c.month : Int) % 12).toNat = c.month := by omega
  have hd := h.1
  have hoff : offset (monthLens (leap c.year)) c.month (c.day - 1)
      = offset (monthLens (leap c.year)) c.month 0 + (c.day - 1) := offset_add
  rw [dayNumber, Date.number, hq, hr, add_zero]
  omega

/-- The first day of the next month, which may be in the next year. -/
theorem dayNumber_next {m len : Nat} (h : (monthLens (leap y))[m]? = some len) :
    dayNumber (if m = 11 then y + 1 else y) (if m = 11 then 0 else m + 1 : Nat) 1 = dayNumber y m 1 + len := by
  have hm : m < 12 := (List.getElem?_eq_some_iff.mp h).1
  have hq : (m : Int) / 12 = 0 := by omega
  have hr : ((m : Int) % 12).toNat = m := by omega
  have hnext : offset (monthLens (leap y)) (m + 1) 0 = offset (monthLens (leap y)) m 0 + len := by
    simp [offset, List.take_add_one, h]
  by_cases hlast : m = 11
  · have hsum : offset (monthLens (leap y)) (m + 1) 0 = yearLen (leap y) := by
      rw [hlast, ← sum_monthLens, offset, List.take_of_length_le (by simp), Nat.add_zero]
    rw [if_pos hlast, if_pos hlast, dayNumber, dayNumber, hq, hr, add_zero]
    simp only [Nat.cast_zero, Int.zero_ediv, add_zero, Int.zero_emod, Int.toNat_zero, offset_zero, newYear_succ]
    omega
  · have hq' : ((m + 1 : Nat) : Int) / 12 = 0 := by omega
    have hr' : (((m + 1 : Nat) : Int) % 12).toNat = m + 1 := by omega
    rw [if_neg hlast, if_neg hlast, dayNumber, dayNumber, hq, hr, hq', hr', add_zero, hnext]
    omega

theorem Date.Valid.number_mem (h : c.Valid) :
    newYear c.year ≤ c.number ∧ c.number < newYear (c.year + 1) := by
  have := h.2.offset_lt_sum
  rw [sum_monthLens] at this
  rw [newYear_succ, Date.number]
  omega

theorem Date.Valid.inj (h : c.Valid) (h' : c'.Valid) (heq : c.number = c'.number) : c = c' := by
  have hc := h.number_mem
  have hc' := h'.number_mem
  have hyear : c.year = c'.year := by
    by_contra hne
    rcases lt_or_gt_of_ne hne with hlt | hlt
    · have := newYear_le (y := c.year + 1) (m := c'.year) (by omega)
      omega
    · have := newYear_le (y := c'.year + 1) (m := c.year) (by omega)
      omega
  obtain ⟨y, m, d⟩ := c
  obtain ⟨y', m', d'⟩ := c'
  obtain rfl : y = y' := hyear
  have hoff : offset (monthLens (leap y)) m (d - 1) = offset (monthLens (leap y)) m' (d' - 1) := by
    simp only [Date.number] at heq
    omega
  obtain ⟨rfl, hd⟩ := h.2.inj h'.2 hoff
  have := h.1
  have := h'.1
  simp only at *
  obtain rfl : d = d' := by omega
  rfl

theorem Date.Valid.le_iff (h : c.Valid) (h' : c'.Valid) (hyear : c.year = c'.year) :
    c.number ≤ c'.number ↔ c.month < c'.month ∨ c.month = c'.month ∧ c.day ≤ c'.day := by
  have hp := h.2
  have hp' := h'.2
  have hd := h.1
  have hd' := h'.1
  simp only [Date.number, hyear] at *
  rcases Nat.lt_trichotomy c.month c'.month with hlt | heq | hgt
  · have := hp.offset_lt (s := c'.day - 1) hlt
    omega
  · have h1 : offset (monthLens (leap c'.year)) c.month (c.day - 1)
        = offset (monthLens (leap c'.year)) c.month 0 + (c.day - 1) := offset_add
    have h2 : offset (monthLens (leap c'.year)) c'.month (c'.day - 1)
        = offset (monthLens (leap c'.year)) c'.month 0 + (c'.day - 1) := offset_add
    rw [heq] at h1
    rw [heq, h1, h2]
    omega
  · have := hp'.offset_lt (s := c.day - 1) hgt
    omega

/-- What is read off a day number: a day of the calendar, with this number. -/
theorem ofDayNumber_spec (n : Int) : (ofDayNumber n).Valid ∧ (ofDayNumber n).number = n := by
  obtain ⟨i, k, hloc, hplace, hoff⟩ := exists_locate (n := (n % 146097).toNat) eraLens
    (by rw [sum_eraLens]; omega)
  have hi : i < 400 := by simpa [eraLens] using hplace.lt_length
  have hk : k < yearLen (leap (400 * (n / 146097) + i + 1)) := by
    obtain ⟨len, hlen, hk⟩ := hplace
    rw [eraLens, List.getElem?_map, List.getElem?_range hi] at hlen
    rw [add_assoc, leap_add_era]
    obtain rfl := Option.some.inj hlen
    exact hk
  obtain ⟨m, r, hloc', hplace', hoff'⟩ := exists_locate (n := k)
    (monthLens (leap (400 * (n / 146097) + i + 1))) (by rwa [sum_monthLens])
  have hval : ofDayNumber n = { year := 400 * (n / 146097) + i + 1, month := m, day := r + 1 } := by
    simp only [ofDayNumber, hloc, hloc']
  have hera := newYear_era (n / 146097) i (by omega)
  have hoff0 : offset eraLens i k = offset eraLens i 0 + k := offset_add
  rw [hval]
  refine ⟨⟨by simp, by simpa using hplace'⟩, ?_⟩
  simp only [Date.number, Nat.add_sub_cancel, hoff', hera]
  omega

theorem valid_ofDayNumber (n : Int) : (ofDayNumber n).Valid := (ofDayNumber_spec n).1

@[simp] theorem number_ofDayNumber (n : Int) : (ofDayNumber n).number = n := (ofDayNumber_spec n).2

theorem Date.Valid.ofDayNumber_number (h : c.Valid) : ofDayNumber c.number = c :=
  (valid_ofDayNumber c.number).inj h (number_ofDayNumber c.number)

/-- The year of a day number is the one whose new year is the last before it. -/
theorem year_ofDayNumber (h : newYear y ≤ n) (h' : n < newYear (y + 1)) :
    (ofDayNumber n).year = y := by
  have hn := (valid_ofDayNumber n).number_mem
  rw [number_ofDayNumber] at hn
  by_contra hne
  rcases lt_or_gt_of_ne hne with hlt | hlt
  · have := newYear_le (y := (ofDayNumber n).year + 1) (m := y) (by omega)
    omega
  · have := newYear_le (y := y + 1) (m := (ofDayNumber n).year) (by omega)
    omega

end Gregorian
