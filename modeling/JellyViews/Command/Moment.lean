/-
**Moments as text.**

A moment counts seconds from the beginning of 1970 in universal time.  Its text is the date, a `T`,
the time of day with as many decimals as needed, in groups of three, and a `Z`.

Dates are counted from the first of March of the year zero, so that the leap day is the last day
of a year; 400 years have 146097 days.

Main definitions:

* `Command.Date.ofDays` — the date of a day;
* `Command.Moment`, `Command.Moment.text` — a moment and its text.
-/

import JellyViews.Decimal.Layout

set_option relaxedAutoImplicit false
set_option autoImplicit false

namespace JellyViews

namespace Command

/-! ### Dates -/

/-- A day of a month of a year. -/
structure Date where
  year : Nat
  month : Nat
  day : Nat
deriving DecidableEq

/-- The days of 400 years. -/
def cycleDays : Nat := 146097

/-- The days from the first of March of the year zero to the beginning of 1970. -/
def daysBefore1970 : Nat := 719468

/-- The years that have passed within 400 years, by the days that have. -/
def yearOfCycle (day : Nat) : Nat :=
  (day - day / 1460 + day / 36524 - day / (cycleDays - 1)) / 365

/-- The day of a year that begins in March, by the day within 400 years. -/
def dayOfYear (day : Nat) : Nat :=
  let year := yearOfCycle day
  day - (365 * year + year / 4 - year / 100)

/-- The month, March being 0, by the day of the year. -/
def monthOfYear (day : Nat) : Nat := (5 * day + 2) / 153

/-- The date of a day, counted from the beginning of 1970. -/
def Date.ofDays (days : Nat) : Date :=
  let n := days + daysBefore1970
  let day := dayOfYear (n % cycleDays)
  let month := monthOfYear day
  { year := 400 * (n / cycleDays) + yearOfCycle (n % cycleDays) + (if month < 10 then 0 else 1)
    month := if month < 10 then month + 3 else month - 9
    day := day - (153 * month + 2) / 5 + 1 }

/-! ### Moments -/

/-- Seconds from the beginning of 1970, and nanoseconds. -/
structure Moment where
  seconds : Nat
  nanoseconds : Nat

/-- A number with zeros in front, up to a width. -/
def zeroPadded (width n : Nat) : String :=
  Decimal.zeros (width - (Decimal.digitsOf n).length) ++ Decimal.digitsOf n

/-- The text of a date. -/
def Date.text (d : Date) : String :=
  zeroPadded 4 d.year ++ "-" ++ zeroPadded 2 d.month ++ "-" ++ zeroPadded 2 d.day

/-- The text of a second of a day. -/
def timeText (second : Nat) : String :=
  zeroPadded 2 (second / 3600) ++ ":" ++ zeroPadded 2 (second / 60 % 60) ++ ":" ++
    zeroPadded 2 (second % 60)

/-- The decimals of a second, in groups of three. -/
def decimalsText (nanoseconds : Nat) : String :=
  if nanoseconds = 0 then ""
  else if nanoseconds % 1000000 = 0 then "." ++ zeroPadded 3 (nanoseconds / 1000000)
  else if nanoseconds % 1000 = 0 then "." ++ zeroPadded 6 (nanoseconds / 1000)
  else "." ++ zeroPadded 9 nanoseconds

/-- The text of a moment. -/
def Moment.text (m : Moment) : String :=
  (Date.ofDays (m.seconds / 86400)).text ++ "T" ++ timeText (m.seconds % 86400) ++
    decimalsText m.nanoseconds ++ "Z"

example : Date.ofDays 0 = ⟨1970, 1, 1⟩ := by decide

example : Date.ofDays 11016 = ⟨2000, 2, 29⟩ := by decide

example : Date.ofDays 20819 = ⟨2027, 1, 1⟩ := by decide

end Command

end JellyViews
