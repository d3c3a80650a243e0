/-
The values of a TOML document that hold no other values: strings, numbers,
booleans, dates and times.

Each `read…?` takes a text and gives back what it read and the text after it.
-/
import CommandTemplates.Calendar.Timestamp
import CommandTemplates.Data.Value
import CommandTemplates.Data.Json

namespace CommandTemplates.Toml

open Text (takeNumber? takeChar? digitsValue? padded)

/-- Blanks inside a line. -/
def isBlank (c : Char) : Bool := c = ' ' || c = '\t'

/-- A text without the blanks at its start. -/
def skipBlanks (cs : List Char) : List Char := cs.dropWhile isBlank

/-- Reads the end of a line. -/
def readNewline? : List Char → Option (List Char)
  | '\n' :: rest => some rest
  | '\r' :: '\n' :: rest => some rest
  | _ => none

/-- Characters that comments and strings may hold as they are: no controls but the tab. -/
def isPlain (c : Char) : Bool := c = '\t' || (32 ≤ c.toNat && c.toNat ≠ 127)

/-- A text after the comment at its start, if there is one. -/
def skipComment (cs : List Char) : List Char :=
  match cs with
  | '#' :: rest => rest.dropWhile isPlain
  | cs => cs

/-- Reads blanks and a comment up to the end of a line or of the text. -/
def readLineEnd? (cs : List Char) : Option (List Char) :=
  match skipComment (skipBlanks cs) with
  | [] => some []
  | cs => readNewline? cs

/-- A text without the blanks and line ends at its start. -/
def skipBlankLines : List Char → List Char
  | '\r' :: '\n' :: rest => skipBlankLines rest
  | c :: rest => if isBlank c || c = '\n' then skipBlankLines rest else c :: rest
  | [] => []

/-- The character that a backslash and a letter stand for. -/
def simpleEscape? : Char → Option Char
  | 'b' => some '\x08'
  | 't' => some '\t'
  | 'n' => some '\n'
  | 'f' => some '\x0c'
  | 'r' => some '\r'
  | '"' => some '"'
  | '\\' => some '\\'
  | _ => none

/-- The character of the code point that digits in base sixteen spell. -/
def escapedCode? (digits : List Char) : Option Char := do
  Json.charOfCode? (← Json.hexNumber? digits)

/-- Reads an escape after its backslash. -/
def readEscape? : List Char → Option (Char × List Char)
  | 'u' :: a :: b :: c :: d :: rest => (escapedCode? [a, b, c, d]).map (·, rest)
  | 'U' :: a :: b :: c :: d :: e :: f :: g :: h :: rest =>
    (escapedCode? [a, b, c, d, e, f, g, h]).map (·, rest)
  | c :: rest => (simpleEscape? c).map (·, rest)
  | [] => none

/-- Reads a string in double quotes, after the opening one; `fuel` bounds the number of steps. -/
def readBasic? : Nat → List Char → Option (List Char × List Char)
  | 0, _ | _, [] => none
  | _ + 1, '"' :: rest => some ([], rest)
  | fuel + 1, '\\' :: rest => do
    let (c, rest) ← readEscape? rest
    let (text, rest) ← readBasic? fuel rest
    some (c :: text, rest)
  | fuel + 1, c :: rest =>
    if isPlain c then (readBasic? fuel rest).map fun (text, rest) => (c :: text, rest) else none

/-- Reads a string in single quotes, after the opening one. -/
def readLiteral? : List Char → Option (List Char × List Char)
  | [] => none
  | '\'' :: rest => some ([], rest)
  | c :: rest =>
    if isPlain c then (readLiteral? rest).map fun (text, rest) => (c :: text, rest) else none

/-- Reads the end of a string in tripled quotes: three quotes, and before them up to two that belong
to the text. -/
def readClosing? (quote : Char) (cs : List Char) : Option (List Char × List Char) :=
  let quotes := cs.takeWhile (· = quote)
  if 3 ≤ quotes.length then
    let kept := min (quotes.length - 3) 2
    some (List.replicate kept quote, cs.drop (kept + 3))
  else none

/-- Reads a backslash at the end of a line, after the backslash: it stands for nothing, and so do
the blanks and line ends after it. -/
def readContinuation? (cs : List Char) : Option (List Char) :=
  (readNewline? (skipBlanks cs)).map skipBlankLines

/-- Reads a string in three double quotes, after the opening ones; `fuel` bounds the number of
steps. -/
def readLongBasic? : Nat → List Char → Option (List Char × List Char)
  | 0, _ => none
  | fuel + 1, cs =>
    match readClosing? '"' cs with
    | some closed => some closed
    | none =>
      match cs with
      | [] => none
      | '\\' :: rest =>
        match readContinuation? rest with
        | some rest => readLongBasic? fuel rest
        | none => do
          let (c, rest) ← readEscape? rest
          let (text, rest) ← readLongBasic? fuel rest
          some (c :: text, rest)
      | c :: rest =>
        match readNewline? (c :: rest) with
        | some rest => (readLongBasic? fuel rest).map fun (text, rest) => ('\n' :: text, rest)
        | none =>
          if isPlain c then
            (readLongBasic? fuel rest).map fun (text, rest) => (c :: text, rest)
          else none

/-- Reads a string in three single quotes, after the opening ones; `fuel` bounds the number of
steps. -/
def readLongLiteral? : Nat → List Char → Option (List Char × List Char)
  | 0, _ => none
  | fuel + 1, cs =>
    match readClosing? '\'' cs with
    | some closed => some closed
    | none =>
      match cs with
      | [] => none
      | c :: rest =>
        match readNewline? (c :: rest) with
        | some rest => (readLongLiteral? fuel rest).map fun (text, rest) => ('\n' :: text, rest)
        | none =>
          if isPlain c then
            (readLongLiteral? fuel rest).map fun (text, rest) => (c :: text, rest)
          else none

/-- A text without the line end at its start, if there is one. -/
def skipNewline (cs : List Char) : List Char := (readNewline? cs).getD cs

/-- Reads a string of any kind. -/
def readString? (cs : List Char) : Option (String × List Char) :=
  (match cs with
  | '"' :: '"' :: '"' :: rest => readLongBasic? (rest.length + 1) (skipNewline rest)
  | '\'' :: '\'' :: '\'' :: rest => readLongLiteral? (rest.length + 1) (skipNewline rest)
  | '"' :: rest => readBasic? (rest.length + 1) rest
  | '\'' :: rest => readLiteral? rest
  | _ => none).map fun (text, rest) => (String.ofList text, rest)

/-- Reads digits with single underscores between them; `none` without a digit at the start or after
an underscore. -/
def readDigits? (isDigit : Char → Bool) : List Char → Option (List Char × List Char)
  | '_' :: _ | [] => none
  | c :: rest =>
    if !isDigit c then none
    else
      match rest with
      | '_' :: d :: more =>
        (readDigits? isDigit (d :: more)).map fun (digits, rest) => (c :: digits, rest)
      | '_' :: [] => none
      | d :: more =>
        if isDigit d then
          (readDigits? isDigit (d :: more)).map fun (digits, rest) => (c :: digits, rest)
        else some ([c], d :: more)
      | [] => some ([c], [])

/-- Reads a sign, if there is one. -/
def readSign : List Char → Bool × List Char
  | '-' :: rest => (true, rest)
  | '+' :: rest => (false, rest)
  | cs => (false, cs)

/-- Reads digits of a whole number: no zero before others. -/
def readWhole? (cs : List Char) : Option (List Char × List Char) :=
  match cs with
  | '0' :: rest => some (['0'], rest)
  | cs => readDigits? Char.isDigit cs

/-- The number that digits in a base spell. -/
def baseNumber? (base : Nat) (digits : List Char) : Option Nat :=
  digits.foldl (fun n c => do return (← n) * base + (← Json.hexValue? c)) (some 0)

/-- An integer, if 64 bits hold it. -/
def integer? (n : Int) : Option Value :=
  if -0x8000000000000000 ≤ n && n < 0x8000000000000000 then some (.integer n) else none

/-- Reads an integer: decimal with a sign, or in base sixteen, eight or two without one. -/
def readInteger? (cs : List Char) : Option (Value × List Char) :=
  let based (base : Nat) (isDigit : Char → Bool) (cs : List Char) := do
    let (digits, rest) ← readDigits? isDigit cs
    return (← integer? (← baseNumber? base digits), rest)
  match cs with
  | '0' :: 'x' :: rest => based 16 (fun c => (Json.hexValue? c).isSome) rest
  | '0' :: 'o' :: rest => based 8 (fun c => '0' ≤ c && c ≤ '7') rest
  | '0' :: 'b' :: rest => based 2 (fun c => c = '0' || c = '1') rest
  | cs => do
    let (negative, cs) := readSign cs
    let (digits, rest) ← readWhole? cs
    let n ← digitsValue? digits
    return (← integer? (if negative then -n else n), rest)

/-- Reads the exponent of a number after its letter. -/
def readExponent? (cs : List Char) : Option (Int × List Char) := do
  let (negative, cs) := readSign cs
  let (digits, rest) ← readDigits? Char.isDigit cs
  let n ← digitsValue? digits
  return (if negative then -n else n, rest)

/-- Reads an exponent with its letter, if there is one. -/
def readOptionalExponent? : List Char → Option (Option Int × List Char)
  | 'e' :: rest | 'E' :: rest => (readExponent? rest).map fun (n, rest) => (some n, rest)
  | cs => some (none, cs)

/-- Reads a fraction with its point, if there is one. -/
def readOptionalFraction? : List Char → Option (Option (List Char) × List Char)
  | '.' :: rest => (readDigits? Char.isDigit rest).map fun (ds, rest) => (some ds, rest)
  | cs => some (none, cs)

/-- Reads a floating-point number: with a fraction, an exponent or both, or one of the two names.
A number too large for one is refused. -/
def readFloat? (cs : List Char) : Option (Value × List Char) := do
  let (negative, cs) := readSign cs
  let signed (x : Float) : Value := .float (if negative then -x else x)
  match cs with
  | 'i' :: 'n' :: 'f' :: rest => return (signed (1.0 / 0.0), rest)
  | 'n' :: 'a' :: 'n' :: rest => return (signed (0.0 / 0.0), rest)
  | cs =>
    let (whole, cs) ← readWhole? cs
    let (fraction, cs) ← readOptionalFraction? cs
    let (exponent, cs) ← readOptionalExponent? cs
    if fraction.isNone && exponent.isNone then none
    else
      let fraction := fraction.getD []
      let x := Text.floatOfDecimal (← digitsValue? (whole ++ fraction))
        (exponent.getD 0 - fraction.length)
      if x == 1.0 / 0.0 && !negative then none else return (signed x, cs)

/-- Reads the fraction of a second, if there is one: up to nine digits count, and those that end in
zeros are not shown. -/
def readSecondFraction? : List Char → Option (String × List Char)
  | '.' :: rest =>
    match rest.takeWhile Char.isDigit with
    | [] => none
    | digits =>
      let shown := ((digits.take 9).reverse.dropWhile (· = '0')).reverse
      some (if shown = [] then "" else "." ++ String.ofList shown,
        rest.dropWhile Char.isDigit)
  | cs => some ("", cs)

/-- Reads a date in its standard form. -/
def readDate? (cs : List Char) : Option (String × List Char) := do
  let (date, rest) ← Timestamp.readDate? cs
  return (s!"{padded 4 date.year.toNat}-{padded 2 date.month}-{padded 2 date.day}", rest)

/-- Reads a time of day, in its standard form. -/
def readTime? (cs : List Char) : Option (String × List Char) := do
  let (hour, cs) ← takeNumber? 2 cs
  let (minute, cs) ← takeNumber? 2 (← takeChar? ':' cs)
  let (second, cs) ← takeNumber? 2 (← takeChar? ':' cs)
  let (fraction, cs) ← readSecondFraction? cs
  if hour ≤ 23 && minute ≤ 59 && second ≤ 60 then
    return (s!"{padded 2 hour}:{padded 2 minute}:{padded 2 second}{fraction}", cs)
  else none

/-- Reads an offset after its sign, in minutes. -/
def readHoursMinutes? (cs : List Char) : Option (Nat × List Char) := do
  let (hours, cs) ← takeNumber? 2 cs
  let (minutes, cs) ← takeNumber? 2 (← takeChar? ':' cs)
  if hours ≤ 23 && minutes ≤ 59 then return (hours * 60 + minutes, cs) else none

/-- An offset in its standard form. -/
def offsetText (negative : Bool) (minutes : Nat) : String :=
  (if negative && minutes ≠ 0 then "-" else "+") ++
    s!"{padded 2 (minutes / 60)}:{padded 2 (minutes % 60)}"

/-- Reads an offset in its standard form, if there is one. -/
def readOffset? : List Char → Option (String × List Char)
  | 'Z' :: rest | 'z' :: rest => some ("Z", rest)
  | '+' :: rest => (readHoursMinutes? rest).map fun (n, rest) => (offsetText false n, rest)
  | '-' :: rest => (readHoursMinutes? rest).map fun (n, rest) => (offsetText true n, rest)
  | cs => some ("", cs)

/-- Reads the time and the offset after a date; without a time the date stands alone. -/
def readTimeAfterDate? : List Char → Option (String × List Char)
  | c :: rest =>
    if c = 'T' || c = 't' || c = ' ' then
      match readTime? rest with
      | some (time, rest) => (readOffset? rest).map fun (offset, rest) =>
          ("T" ++ time ++ offset, rest)
      | none => if c = ' ' then some ("", c :: rest) else none
    else some ("", c :: rest)
  | [] => some ("", [])

/-- Reads a date, a time of day, or both, in its standard form. -/
def readDatetime? (cs : List Char) : Option (String × List Char) :=
  match readDate? cs with
  | some (date, rest) =>
    (readTimeAfterDate? rest).map fun (time, rest) => (date ++ time, rest)
  | none => readTime? cs

/-- The standard form of a text that is a date, a time of day, or both. -/
def datetime? (text : String) : Option String :=
  match readDatetime? text.toList with
  | some (standard, []) => some standard
  | _ => none

/-- Reads a value that starts with a digit or a sign. -/
def readNumberLike? (cs : List Char) : Option (Value × List Char) :=
  match readDatetime? cs with
  | some (text, rest) => some (.datetime text, rest)
  | none => (readFloat? cs).or (readInteger? cs)

/-- Reads a value that holds no other values. -/
def readScalar? (cs : List Char) : Option (Value × List Char) :=
  match cs with
  | 't' :: 'r' :: 'u' :: 'e' :: rest => some (.bool true, rest)
  | 'f' :: 'a' :: 'l' :: 's' :: 'e' :: rest => some (.bool false, rest)
  | '"' :: _ | '\'' :: _ => (readString? cs).map fun (s, rest) => (.text s, rest)
  | cs => readNumberLike? cs

end CommandTemplates.Toml
