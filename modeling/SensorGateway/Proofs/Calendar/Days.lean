import Mathlib.Algebra.Group.Nat.Defs
import SensorGateway.Calendar

/-!
Days and dates.

Every day has a date of its own, before the year 0 and after the year 9999 as well: `toDays_ofDays`
finds the day again. Inside a cycle of 400 years the year is found by one division. It is the right
one because the leap days that are counted away by then differ from those of the year by one at
most, which the 365 days of a year leave room for; the last day of the cycle stands apart, since it
is the only one in a fifth century.
-/

set_option autoImplicit false

namespace SensorGateway.Calendar

/-! ## Inside a cycle -/

/-- Before the last day of a cycle no fourth century has ended that would have to be taken back. -/
theorem yearOfCycle_of_lt {d : Nat} (h : d < 146096) :
    yearOfCycle d = (d - d / 1460 + d / 36524) / 365 := by
  rw [yearOfCycle, Nat.div_eq_of_lt h, Nat.sub_zero]

/-- A day and its year are in the same of the four centuries of a cycle, and the leap days counted
away, the missing ones of full centuries included, are those in front of the year or one more. -/
theorem leapDays_yearOfCycle {d : Nat} (h : d < 146096) :
    yearOfCycle d / 100 = d / 36524 ∧ yearOfCycle d / 4 ≤ d / 1460
      ∧ d / 1460 ≤ yearOfCycle d / 4 + 1 := by
  have hcentury : d / 36524 < 4 := by omega
  rw [yearOfCycle_of_lt h]
  generalize hc : d / 36524 = c at *
  -- with the century known, one division is left
  match c, hcentury with
  | 0, _ => omega
  | 1, _ => omega
  | 2, _ => omega
  | 3, _ => omega

/-- **A day lies in its year.** -/
theorem yearOfCycle_spec {d : Nat} (h : d < 146097) :
    yearOfCycle d < 400 ∧ yearStart (yearOfCycle d) ≤ d
      ∧ d ≤ yearStart (yearOfCycle d) + 365 := by
  by_cases hlast : d = 146096
  · rw [hlast]
    decide
  · have hd : d < 146096 := by omega
    obtain ⟨hcentury, hle, hge⟩ := leapDays_yearOfCycle hd
    have hyear := yearOfCycle_of_lt hd
    rw [yearStart, hcentury]
    omega

/-- **A day lies in its month.** -/
theorem monthOfYear_spec {d : Nat} (h : d ≤ 365) :
    monthOfYear d < 12 ∧ monthStart (monthOfYear d) ≤ d
      ∧ d ≤ monthStart (monthOfYear d) + 30 := by
  rw [monthOfYear, monthStart]
  omega

/-! ## Dates -/

/-- A date by its cycle, the year and the month of the cycle counted from March, and the day of the
month counted from 0. -/
structure Places (date : Date) (cycle : Int) (y m k : Nat) : Prop where
  year_lt : y < 400
  month_lt : m < 12
  day_le : k ≤ 30
  year : date.year = if m < 10 then y + cycle * 400 else y + cycle * 400 + 1
  month : date.month = if m < 10 then m + 3 else m - 9
  day : date.day = k + 1

/-- **The places of the date of a day,** and the day that they make up. -/
theorem places_ofDays (days : Int) : ∃ cycle y m k, Places (ofDays days) cycle y m k
    ∧ days = cycle * cycleDays + (yearStart y + monthStart m + k : Nat) - epochOffset := by
  have hpos : (0 : Int) < cycleDays := by decide
  have hcut := Int.fmod_add_fdiv_mul (days + epochOffset) cycleDays
  have hnonneg := Int.fmod_nonneg_of_pos (days + epochOffset) hpos
  have hlt := Int.fmod_lt_of_pos (days + epochOffset) hpos
  generalize hcycle : (days + epochOffset).fdiv cycleDays = cycle at hcut
  generalize hd : ((days + epochOffset).fmod cycleDays).toNat = d
  have hd' : (days + epochOffset).fmod cycleDays = d := by omega
  rw [hd'] at hcut hlt
  obtain ⟨hyear, hstart, hend⟩ := yearOfCycle_spec (Int.ofNat_lt.mp hlt)
  obtain ⟨hmonth, hfirst, hlast⟩ := monthOfYear_spec (d := d - yearStart (yearOfCycle d)) (by omega)
  refine ⟨cycle, _, _, d - yearStart (yearOfCycle d)
    - monthStart (monthOfYear (d - yearStart (yearOfCycle d))),
    ⟨hyear, hmonth, by omega, ?_, ?_, ?_⟩, by omega⟩
  all_goals
    simp only [ofDays, hcycle, hd]
    split <;> rfl

theorem Places.month_le {date : Date} {cycle : Int} {y m k : Nat}
    (h : Places date cycle y m k) : date.month ≤ 12 := by
  have hm := h.month_lt
  rw [h.month]
  split <;> omega

/-- The day of a date is the one that its places make up. -/
theorem Places.toDays_eq {date : Date} {cycle : Int} {y m k : Nat}
    (h : Places date cycle y m k) :
    toDays date = cycle * cycleDays + (yearStart y + monthStart m + k : Nat) - epochOffset := by
  have hy := h.year_lt
  have hm := h.month_lt
  -- a year that starts in March ends in the early months of the next
  have hearly : date.month ≤ 2 ↔ ¬ m < 10 := by
    rw [h.month]
    split <;> omega
  have hyear : (if date.month ≤ 2 then date.year - 1 else date.year) = y + cycle * 400 := by
    rw [h.year]
    split <;> split <;> omega
  have hmonth : (if date.month ≤ 2 then date.month + 9 else date.month - 3) = m := by
    rw [h.month]
    split <;> split <;> omega
  have hcycle : ((y : Int) + cycle * 400).fdiv 400 = cycle := by
    rw [Int.fdiv_eq_ediv_of_nonneg _ (by decide)]
    omega
  have hrest : (((y : Int) + cycle * 400).fmod 400).toNat = y := by
    rw [Int.fmod_eq_emod_of_nonneg _ (by decide)]
    omega
  simp only [toDays, hyear, hmonth, hcycle, hrest, h.day, Nat.add_sub_cancel]

/-- **The day of the date of a day is that day.** -/
theorem toDays_ofDays (days : Int) : toDays (ofDays days) = days := by
  obtain ⟨cycle, y, m, k, hplaces, hdays⟩ := places_ofDays days
  exact hplaces.toDays_eq.trans hdays.symm

/-- Months and days have two digits at most. -/
theorem ofDays_lt (days : Int) : (ofDays days).month < 100 ∧ (ofDays days).day < 100 := by
  obtain ⟨cycle, y, m, k, hplaces, -⟩ := places_ofDays days
  have hmonth := hplaces.month_le
  have hday := hplaces.day_le
  rw [hplaces.day]
  omega

/-- The last day of a cycle is a leap day. -/
example : ofDays 11016 = ⟨2000, 2, 29⟩ := by decide

end SensorGateway.Calendar
