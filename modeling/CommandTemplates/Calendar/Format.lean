/-
Date formats made of letter tokens.

At each position of a format the longest token that starts there is replaced by
its part of the moment; `[...]` stands for the text between the brackets; any
other character stands for itself.

* `DateToken.all` — the tokens, each after every longer one it could be cut from;
* `readPiece` — what stands at the start of a format;
* `pieces` and `Moment.format` — a whole format, taken apart and rendered.
-/
import CommandTemplates.Calendar.Moment
import CommandTemplates.Text.Decimal

namespace CommandTemplates

open Text (padded)

/-- The parts of a moment that a format can ask for. -/
inductive DateToken where
  | year
  | shortYear
  | monthName
  | shortMonthName
  | paddedMonth
  | month
  | paddedDayOfYear
  | dayOfYear
  | paddedDay
  | ordinalDay
  | day
  | weekdayName
  | shortWeekdayName
  | tinyWeekdayName
  | weekday
  | paddedHour
  | hour
  | paddedHour12
  | hour12
  | paddedMinute
  | minute
  | paddedSecond
  | second
  | millis
  | upperMeridiem
  | lowerMeridiem
  | plainOffset
  | offset
  | totalSeconds
  | totalMillis
  | quarter
  | paddedWeek
  | week
  deriving DecidableEq, Repr

namespace DateToken

/-- Every token.  A token comes after the longer ones that start with it, so the first one found
at a position is the longest. -/
def all : List DateToken :=
  [.year, .shortYear, .monthName, .shortMonthName, .paddedMonth, .month, .paddedDayOfYear,
   .dayOfYear, .paddedDay, .ordinalDay, .day, .weekdayName, .shortWeekdayName, .tinyWeekdayName,
   .weekday, .paddedHour, .hour, .paddedHour12, .hour12, .paddedMinute, .minute, .paddedSecond,
   .second, .millis, .upperMeridiem, .lowerMeridiem, .plainOffset, .offset, .totalSeconds,
   .totalMillis, .quarter, .paddedWeek, .week]

/-- The letters of a token. -/
def spelling : DateToken → List Char
  | .year => ['Y', 'Y', 'Y', 'Y']
  | .shortYear => ['Y', 'Y']
  | .monthName => ['M', 'M', 'M', 'M']
  | .shortMonthName => ['M', 'M', 'M']
  | .paddedMonth => ['M', 'M']
  | .month => ['M']
  | .paddedDayOfYear => ['D', 'D', 'D', 'D']
  | .dayOfYear => ['D', 'D', 'D']
  | .paddedDay => ['D', 'D']
  | .ordinalDay => ['D', 'o']
  | .day => ['D']
  | .weekdayName => ['d', 'd', 'd', 'd']
  | .shortWeekdayName => ['d', 'd', 'd']
  | .tinyWeekdayName => ['d', 'd']
  | .weekday => ['d']
  | .paddedHour => ['H', 'H']
  | .hour => ['H']
  | .paddedHour12 => ['h', 'h']
  | .hour12 => ['h']
  | .paddedMinute => ['m', 'm']
  | .minute => ['m']
  | .paddedSecond => ['s', 's']
  | .second => ['s']
  | .millis => ['S', 'S', 'S']
  | .upperMeridiem => ['A']
  | .lowerMeridiem => ['a']
  | .plainOffset => ['Z', 'Z']
  | .offset => ['Z']
  | .totalSeconds => ['X']
  | .totalMillis => ['x']
  | .quarter => ['Q']
  | .paddedWeek => ['W', 'W']
  | .week => ['W']

theorem mem_all (t : DateToken) : t ∈ all := by cases t <;> decide

theorem spelling_ne_nil (t : DateToken) : t.spelling ≠ [] := by cases t <;> simp [spelling]

/-- The token at the start of a format. -/
def ofStart? (cs : List Char) : Option DateToken := all.find? fun t => t.spelling.isPrefixOf cs

end DateToken

/-- The names of the months, from January. -/
def monthNames : List String :=
  ["January", "February", "March", "April", "May", "June", "July", "August", "September",
   "October", "November", "December"]

/-- The names of the weekdays, from Sunday. -/
def weekdayNames : List String :=
  ["Sunday", "Monday", "Tuesday", "Wednesday", "Thursday", "Friday", "Saturday"]

/-- The first letters of a name. -/
def abbreviate (count : Nat) (name : String) : String := String.ofList (name.toList.take count)

/-- A year with at least four digits; years outside 0 to 9999 carry their sign. -/
def yearText (year : Int) : String :=
  if 0 ≤ year && year ≤ 9999 then padded 4 year.toNat
  else (if year < 0 then "-" else "+") ++ padded 4 year.natAbs

/-- A number with the ending that makes it an ordinal. -/
def ordinal (n : Nat) : String :=
  let ending :=
    if 11 ≤ n % 100 && n % 100 ≤ 13 then "th"
    else if n % 10 = 1 then "st"
    else if n % 10 = 2 then "nd"
    else if n % 10 = 3 then "rd"
    else "th"
  toString n ++ ending

/-- An offset in hours and minutes, rounded to the nearest minute away from zero. -/
def offsetText (separator : String) (offset : Int) : String :=
  let minutes := (offset.natAbs + 30) / 60
  (if offset < 0 then "-" else "+") ++ padded 2 (minutes / 60) ++ separator ++
    padded 2 (minutes % 60)

/-- The part of a moment that a token asks for. -/
def DateToken.render (m : Moment) : DateToken → String
  | .year => yearText m.date.year
  | .shortYear => padded 2 (m.date.year % 100).toNat
  | .monthName => monthNames.getD (m.date.month - 1) ""
  | .shortMonthName => abbreviate 3 (monthNames.getD (m.date.month - 1) "")
  | .paddedMonth => padded 2 m.date.month
  | .month => toString m.date.month
  | .paddedDayOfYear => padded 3 m.date.dayOfYear
  | .dayOfYear => toString m.date.dayOfYear
  | .paddedDay => padded 2 m.date.day
  | .ordinalDay => ordinal m.date.day
  | .day => toString m.date.day
  | .weekdayName => weekdayNames.getD m.date.weekday ""
  | .shortWeekdayName => abbreviate 3 (weekdayNames.getD m.date.weekday "")
  | .tinyWeekdayName => abbreviate 2 (weekdayNames.getD m.date.weekday "")
  | .weekday => toString m.date.weekday
  | .paddedHour => padded 2 m.hour
  | .hour => toString m.hour
  | .paddedHour12 => padded 2 m.hour12
  | .hour12 => toString m.hour12
  | .paddedMinute => padded 2 m.minute
  | .minute => toString m.minute
  | .paddedSecond => padded 2 m.shownSecond
  | .second => toString m.second
  | .millis => padded 3 m.millis
  | .upperMeridiem => if m.hour < 12 then "AM" else "PM"
  | .lowerMeridiem => if m.hour < 12 then "am" else "pm"
  | .plainOffset => offsetText "" m.offset
  | .offset => offsetText ":" m.offset
  | .totalSeconds => toString m.seconds
  | .totalMillis => toString m.totalMillis
  | .quarter => toString ((m.date.month - 1) / 3 + 1)
  | .paddedWeek => padded 2 m.date.week
  | .week => toString m.date.week

/-- One piece of a format. -/
inductive FormatPiece where
  /-- A part of the moment. -/
  | token (t : DateToken)
  /-- Text in brackets, without them. -/
  | literal (text : List Char)
  /-- A character that stands for itself. -/
  | plain (c : Char)
  deriving DecidableEq, Repr

namespace FormatPiece

/-- The text in brackets at the start of a format, after the opening one, and what follows. -/
def readLiteral? (cs : List Char) : Option (List Char × List Char) :=
  match cs.dropWhile (· ≠ ']') with
  | [] => none
  | _ :: rest => some (cs.takeWhile (· ≠ ']'), rest)

/-- The piece at the start of a format whose first character is `c`, and what follows it. -/
def readPiece (c : Char) (cs : List Char) : FormatPiece × List Char :=
  match (if c = '[' then readLiteral? cs else none) with
  | some (text, rest) => (.literal text, rest)
  | none =>
    match DateToken.ofStart? (c :: cs) with
    | some t => (.token t, cs.drop (t.spelling.length - 1))
    | none => (.plain c, cs)

theorem length_readPiece (c : Char) (cs : List Char) : (readPiece c cs).2.length ≤ cs.length := by
  unfold readPiece
  split
  · next h =>
    split at h
    · unfold readLiteral? at h
      split at h
      · simp at h
      · next hd =>
        simp only [Option.some.injEq, Prod.mk.injEq] at h
        have := (List.dropWhile_sublist (l := cs) fun x => decide (x ≠ ']')).length_le
        rw [hd] at this
        simp only [List.length_cons] at this
        simp only [← h.2]
        omega
    · simp at h
  · split <;> simp

/-- The pieces of a format. -/
def pieces : List Char → List FormatPiece
  | [] => []
  | c :: cs => (readPiece c cs).1 :: pieces (readPiece c cs).2
termination_by cs => cs.length
decreasing_by
  have := length_readPiece c cs
  simp only [List.length_cons]
  omega

/-- What a piece stands for. -/
def render (m : Moment) : FormatPiece → String
  | .token t => t.render m
  | .literal text => String.ofList text
  | .plain c => String.ofList [c]

end FormatPiece

/-- The moment in a format. -/
def Moment.format (m : Moment) (pattern : String) : String :=
  String.join ((FormatPiece.pieces pattern.toList).map (·.render m))

end CommandTemplates
