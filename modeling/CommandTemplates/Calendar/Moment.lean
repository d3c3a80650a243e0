/-
Points in time with their local calendar.

A moment is a count of seconds since the start of 1970 in universal time, a
fraction, and the distance of local time from universal time.  The calendar is
the Gregorian one, extended to all years; a fraction of a second or more marks
a leap second, which clocks show as second 60.
-/

namespace CommandTemplates

/-- Days of the Gregorian calendar. -/
structure Date where
  year : Int
  month : Nat
  day : Nat
  deriving DecidableEq, Repr

namespace Date

/-- Whether a year has 366 days. -/
def isLeapYear (year : Int) : Bool := year % 4 = 0 && (year % 100 ≠ 0 || year % 400 = 0)

/-- The number of days of a month. -/
def monthLength (year : Int) (month : Nat) : Nat :=
  if month = 2 then (if isLeapYear year then 29 else 28)
  else if month = 4 || month = 6 || month = 9 || month = 11 then 30
  else 31

/-- Whether the calendar has the day. -/
def isValid (d : Date) : Bool :=
  1 ≤ d.month && d.month ≤ 12 && 1 ≤ d.day && d.day ≤ monthLength d.year d.month

/-- The days from the start of 1970 to a date.  Years are counted from March, so that the leap day
comes last, in eras of 400 years, which all have the same number of days. -/
def toDays (d : Date) : Int :=
  let year := if d.month ≤ 2 then d.year - 1 else d.year
  let month : Int := if d.month ≤ 2 then d.month + 9 else d.month - 3
  let era := year / 400
  let yearOfEra := year % 400
  let dayOfYear := (153 * month + 2) / 5 + d.day - 1
  let dayOfEra := yearOfEra * 365 + yearOfEra / 4 - yearOfEra / 100 + dayOfYear
  era * 146097 + dayOfEra - 719468

/-- The date so many days after the start of 1970. -/
def ofDays (days : Int) : Date :=
  let shifted := days + 719468
  let era := shifted / 146097
  let dayOfEra := shifted % 146097
  let yearOfEra :=
    (dayOfEra - dayOfEra / 1460 + dayOfEra / 36524 - dayOfEra / 146096) / 365
  let dayOfYear := dayOfEra - (365 * yearOfEra + yearOfEra / 4 - yearOfEra / 100)
  let month := (5 * dayOfYear + 2) / 153
  let day := dayOfYear - (153 * month + 2) / 5 + 1
  let civilMonth := if month < 10 then month + 3 else month - 9
  let year := yearOfEra + era * 400
  ⟨if civilMonth ≤ 2 then year + 1 else year, civilMonth.toNat, day.toNat⟩

/-- The position of a day in its year, from 1. -/
def dayOfYear (d : Date) : Nat := (d.toDays - toDays ⟨d.year, 1, 1⟩ + 1).toNat

/-- The days since the last Sunday. -/
def weekday (d : Date) : Nat := ((d.toDays + 4) % 7).toNat

/-- The number of the week, which starts on Monday and belongs to the year of its Thursday. -/
def week (d : Date) : Nat :=
  let monday := d.toDays - (d.toDays + 3) % 7
  let thursday := ofDays (monday + 3)
  (thursday.dayOfYear - 1) / 7 + 1

end Date

/-- A point in time as a local clock shows it. -/
structure Moment where
  /-- Seconds since the start of 1970 in universal time. -/
  seconds : Int
  /-- Nanoseconds after that; a thousand million or more in a leap second. -/
  nanos : Nat := 0
  /-- Seconds by which local time is ahead of universal time. -/
  offset : Int := 0
  deriving DecidableEq, Repr

namespace Moment

/-- The local date. -/
def date (m : Moment) : Date := .ofDays ((m.seconds + m.offset) / 86400)

/-- The seconds since local midnight. -/
def secondOfDay (m : Moment) : Nat := ((m.seconds + m.offset) % 86400).toNat

/-- The hour of the day, from 0 to 23. -/
def hour (m : Moment) : Nat := m.secondOfDay / 3600

/-- The hour as twelve-hour clocks show it, from 1 to 12. -/
def hour12 (m : Moment) : Nat := if m.hour % 12 = 0 then 12 else m.hour % 12

/-- The minute of the hour. -/
def minute (m : Moment) : Nat := m.secondOfDay / 60 % 60

/-- The second of the minute, not counting a leap second. -/
def second (m : Moment) : Nat := m.secondOfDay % 60

/-- The second of the minute as a clock shows it, up to 60 in a leap second. -/
def shownSecond (m : Moment) : Nat := m.second + m.nanos / 1000000000

/-- The milliseconds after the second; a thousand or more in a leap second. -/
def millis (m : Moment) : Nat := m.nanos / 1000000

/-- The milliseconds since the start of 1970. -/
def totalMillis (m : Moment) : Int := m.seconds * 1000 + m.millis

/-- The years that a moment in universal time may lie in. -/
def isYearInRange (year : Int) : Bool := -262143 ≤ year && year ≤ 262142

/-- The moment at a count of seconds, if a clock can show it: the year is in range, local time is
less than a day away, and a leap second only extends a last second of a minute. -/
def ofSeconds? (seconds : Int) (nanos : Nat) (offset : Int) : Option Moment :=
  if isYearInRange (Date.ofDays (seconds / 86400)).year &&
      (nanos < 1000000000 || (nanos < 2000000000 && seconds % 60 = 59)) &&
      -86400 < offset && offset < 86400 then
    some ⟨seconds, nanos, offset⟩
  else none

end Moment

end CommandTemplates
