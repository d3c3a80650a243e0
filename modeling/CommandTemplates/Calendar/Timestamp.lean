/-
Timestamps as internet protocols write them: `2024-03-05T14:07:09.5+02:00`.

The date and the time may also be parted by a blank, letters may be small, the
fraction may have any number of digits, of which nine count, and second 60 is a
leap second.
-/
import CommandTemplates.Calendar.Moment
import CommandTemplates.Text.Decimal

namespace CommandTemplates.Timestamp

open Text (takeNumber? takeChar? digitsValue?)

/-- Reads a date: four, two and two digits. -/
def readDate? (cs : List Char) : Option (Date × List Char) := do
  let (year, cs) ← takeNumber? 4 cs
  let (month, cs) ← takeNumber? 2 (← takeChar? '-' cs)
  let (day, cs) ← takeNumber? 2 (← takeChar? '-' cs)
  let date : Date := ⟨year, month, day⟩
  if date.isValid then some (date, cs) else none

/-- Reads the mark between date and time. -/
def readMark? : List Char → Option (List Char)
  | c :: rest => if c = 'T' || c = 't' || c = ' ' then some rest else none
  | [] => none

/-- Reads a fraction, if there is one, in nanoseconds. -/
def readFraction? : List Char → Option (Nat × List Char)
  | '.' :: rest => do
    let digits := rest.takeWhile Char.isDigit
    if digits = [] then none
    else
      let nanos ← digitsValue? ((digits ++ List.replicate 9 '0').take 9)
      some (nanos, rest.dropWhile Char.isDigit)
  | cs => some (0, cs)

/-- Reads a time of day: seconds since midnight and nanoseconds. -/
def readTime? (cs : List Char) : Option (Nat × Nat × List Char) := do
  let (hour, cs) ← takeNumber? 2 cs
  let (minute, cs) ← takeNumber? 2 (← takeChar? ':' cs)
  let (second, cs) ← takeNumber? 2 (← takeChar? ':' cs)
  let (nanos, cs) ← readFraction? cs
  if hour ≤ 23 && minute ≤ 59 && second ≤ 60 then
    let leap := second = 60
    some (hour * 3600 + minute * 60 + (if leap then 59 else second),
      (if leap then nanos + 1000000000 else nanos), cs)
  else none

/-- Reads hours and minutes of an offset. -/
def readHoursMinutes? (cs : List Char) : Option (Int × List Char) := do
  let (hours, cs) ← takeNumber? 2 cs
  let (minutes, cs) ← takeNumber? 2 (← takeChar? ':' cs)
  if hours ≤ 23 && minutes ≤ 59 then some (hours * 3600 + minutes * 60, cs) else none

/-- Reads the distance of local time from universal time. -/
def readOffset? : List Char → Option (Int × List Char)
  | 'Z' :: rest | 'z' :: rest => some (0, rest)
  | '+' :: rest => readHoursMinutes? rest
  | '-' :: rest | '\u2212' :: rest => (readHoursMinutes? rest).map fun (n, r) => (-n, r)
  | _ => none

/-- The moment that a timestamp names. -/
def read? (text : String) : Option Moment := do
  let (date, cs) ← readDate? text.toList
  let (seconds, nanos, cs) ← readTime? (← readMark? cs)
  let (offset, cs) ← readOffset? cs
  if cs = [] then some ⟨date.toDays * 86400 + seconds - offset, nanos, offset⟩ else none

end CommandTemplates.Timestamp
