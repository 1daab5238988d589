import SensorGateway.Text.Number

/-!
Dates of the proleptic Gregorian calendar.

A day is counted from 1 March of year 0 in cycles of 400 years, so that the leap day is the last
day of its year and every cycle has the same 146097 days. Inside a cycle the year follows from the
day by one division that counts the leap days away, and the month from the day of the year by the
five-month rhythm 31, 30, 31, 30, 31.
-/

set_option autoImplicit false

namespace SensorGateway.Calendar

/-! ## Days and dates -/

/-- A date. -/
structure Date where
  year : Int
  month : Nat
  day : Nat
deriving DecidableEq, Repr

/-- Days in a cycle of 400 years. -/
def cycleDays : Nat := 146097

/-- Days from 1 March of year 0 to 1 January 1970. -/
def epochOffset : Int := 719468

/-- The year of a cycle, counted from March, that day `d` of the cycle lies in. -/
def yearOfCycle (d : Nat) : Nat := (d - d / 1460 + d / 36524 - d / 146096) / 365

/-- The first day, within a cycle, of a year that starts in March. -/
def yearStart (y : Nat) : Nat := 365 * y + y / 4 - y / 100

/-- The month, counted from March as 0, that day `d` of a year lies in. -/
def monthOfYear (d : Nat) : Nat := (5 * d + 2) / 153

/-- The first day, within a year that starts in March, of a month. -/
def monthStart (m : Nat) : Nat := (153 * m + 2) / 5

/-- **The date of a day counted from 1 January 1970.** -/
def ofDays (days : Int) : Date :=
  let z := days + epochOffset
  let cycle := z.fdiv cycleDays
  let d := (z.fmod cycleDays).toNat
  let y := yearOfCycle d
  let r := d - yearStart y
  let m := monthOfYear r
  let year := (y : Int) + cycle * 400
  if m < 10 then ⟨year, m + 3, r - monthStart m + 1⟩ else ⟨year + 1, m - 9, r - monthStart m + 1⟩

/-- The day of a date, counted from 1 January 1970. -/
def toDays (date : Date) : Int :=
  let early := date.month ≤ 2
  let y := if early then date.year - 1 else date.year
  let m := if early then date.month + 9 else date.month - 3
  y.fdiv 400 * cycleDays + (yearStart (y.fmod 400).toNat + monthStart m + (date.day - 1) : Nat)
    - epochOffset

/-! ## Text -/

/-- Seconds in a day. -/
def daySeconds : Int := 86400

/-- **A year has four digits;** outside 0 to 9999 it has a sign and at least four. -/
def yearText (y : Int) : String :=
  if 0 ≤ y && y ≤ 9999 then Text.zeroPadded 4 y.toNat
  else (if y < 0 then "-" else "+") ++ Text.zeroPadded 4 y.natAbs

/-- The text of a date. -/
def dateText (d : Date) : String :=
  yearText d.year ++ "-" ++ Text.zeroPadded 2 d.month ++ "-" ++ Text.zeroPadded 2 d.day

/-- The text of a second of the day. -/
def clockText (s : Nat) : String :=
  Text.zeroPadded 2 (s / 3600) ++ ":" ++ Text.zeroPadded 2 (s / 60 % 60) ++ ":"
    ++ Text.zeroPadded 2 (s % 60)

/-- **Date and time, in UTC, of a count of seconds from 1 January 1970.** -/
def timeText (seconds : Int) : String :=
  dateText (ofDays (seconds.fdiv daySeconds)) ++ " " ++ clockText (seconds.fmod daySeconds).toNat

/-! ## Range -/

/-- The first second that has a date. -/
def firstSecond : Int := -8334601228800

/-- The last second that has a date. -/
def lastSecond : Int := 8210266876799

/-- **A time stamp is written as date and time, or as the bare number where it has no date.** -/
def stampText (seconds : Int) : String :=
  if firstSecond ≤ seconds && seconds ≤ lastSecond then timeText seconds else toString seconds

end SensorGateway.Calendar
