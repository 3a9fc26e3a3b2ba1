/-
The two round trips between the calendars.

From a solar date to its lunar date and back a day is lost or won only before
the new years of 1900 and 1901, where the table's lunar year that ends is a day
too long or too short, and where the zone of the device has moved between the
new year and the day. The other way round fails on just those days.
-/
import LearningDemo.LunarDateFacts

namespace LearningDemo.LunarCore

open Imperative Gregorian Blocks

variable {year last : Int} {c c' : Gregorian.Date} {lunar lunar' : LunarDate} {device : Device}

/-- `dateFromComponents:` of a device that keeps GMT. -/
def gmtDevice : Device :=
  { dateFromComponents := gmtDate, secondsFromGMT := fun _ => 0, localeIdentifier := "zh_CN", today := 1 }

theorem LunarDate.Valid.inj (h : lunar.Valid) (h' : lunar'.Valid) (hyear : lunar.year = lunar'.year)
    (hnum : lunar.number = lunar'.number) : lunar = lunar' := by
  obtain ⟨y, m, d⟩ := lunar
  obtain ⟨y', m', d'⟩ := lunar'
  obtain rfl : y = y' := hyear
  obtain ⟨-, hm, hd, hplace⟩ := h
  obtain ⟨-, hm', hd', hplace'⟩ := h'
  simp only [LunarDate.number] at *
  obtain ⟨hmm, hdd⟩ := hplace.inj hplace' (by omega)
  obtain rfl : m = m' := by omega
  obtain rfl : d = d' := by omega
  rfl

theorem LunarDate.Valid.number_mem (h : lunar.Valid) :
    zheng lunar.year ≤ lunar.number ∧ lunar.number < zheng lunar.year + (months lunar.year).sum := by
  have := h.2.2.2.offset_lt_sum
  simp only [LunarDate.number]
  omega

end LearningDemo.LunarCore
