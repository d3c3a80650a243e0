/-
Data as JSON text.

`compact` writes data on one line and `pretty` over many, with two blanks for
each level; characters outside ASCII stand for themselves.  A number that is not
finite is written as `null`, a date as a table with one key.  `parse?` reads a
text: a number without fraction and exponent is an integer if 64 bits can hold
it, and of equal keys the last one counts.  What stands too deep in brackets is
written, but not read (`depthLimit`).
-/
import CommandTemplates.Data.Value
import CommandTemplates.Text.Decimal
import CommandTemplates.Text.Quoted
import CommandTemplates.Text.Shortest

namespace CommandTemplates.Json

/-- How a character is written in a JSON text. -/
def escapeCharacter (c : Char) : List Char :=
  if c = '"' || c = '\\' then ['\\', c]
  else if c = '\x08' then ['\\', 'b']
  else if c = '\x0c' then ['\\', 'f']
  else if c = '\n' then ['\\', 'n']
  else if c = '\r' then ['\\', 'r']
  else if c = '\t' then ['\\', 't']
  else if c.toNat < 32 then
    let digits := Text.hexDigits c.toNat
    ['\\', 'u'] ++ List.replicate (4 - digits.length) '0' ++ digits
  else [c]

/-- A text in quotes. -/
def quote (text : String) : String :=
  "\"" ++ String.ofList (text.toList.flatMap escapeCharacter) ++ "\""

/-- How lists and tables are spread over lines. -/
structure Layout where
  /-- What stands after an opening bracket and before every item, by depth. -/
  breakBefore : Nat → String
  /-- What stands between a key and its value. -/
  colon : String

/-- Everything on one line. -/
def oneLine : Layout := ⟨fun _ => "", ":"⟩

/-- One item a line, two blanks a level. -/
def indented : Layout := ⟨fun depth => "\n" ++ String.ofList (List.replicate (2 * depth) ' '), ": "⟩

/-- Items in brackets, at the given depth. -/
def bracketed (layout : Layout) (depth : Nat) (opening closing : String)
    (items : List String) : String :=
  if items = [] then opening ++ closing
  else
    opening ++
      String.intercalate "," (items.map fun item => layout.breakBefore (depth + 1) ++ item) ++
      layout.breakBefore depth ++ closing

mutual

/-- The text of data at a depth. -/
def render (layout : Layout) (depth : Nat) : Value → String
  | .null => "null"
  | .bool b => if b then "true" else "false"
  | .integer n => toString n
  | .float x => (Text.floatText? x).getD "null"
  | .text s => quote s
  | .datetime s =>
    bracketed layout depth "\x7b" "\x7d" [quote Value.datetimeKey ++ layout.colon ++ quote s]
  | .list items => bracketed layout depth "[" "]" (renderItems layout (depth + 1) items)
  | .table entries =>
    bracketed layout depth "\x7b" "\x7d" (renderEntries layout (depth + 1) entries)

/-- The texts of the items of a list. -/
def renderItems (layout : Layout) (depth : Nat) : List Value → List String
  | [] => []
  | v :: rest => render layout depth v :: renderItems layout depth rest

/-- The texts of the entries of a table. -/
def renderEntries (layout : Layout) (depth : Nat) : List (String × Value) → List String
  | [] => []
  | (k, v) :: rest =>
    (quote k ++ layout.colon ++ render layout depth v) :: renderEntries layout depth rest

end

/-- The text of data on one line. -/
def compact (v : Value) : String := render oneLine 0 v

/-- The text of data over many lines. -/
def pretty (v : Value) : String := render indented 0 v

/-- The blanks of JSON. -/
def isBlank (c : Char) : Bool := c = ' ' || c = '\n' || c = '\r' || c = '\t'

/-- A text without the blanks at its start. -/
def skipBlanks (cs : List Char) : List Char := cs.dropWhile isBlank

/-- The value of a digit in base sixteen. -/
def hexValue? (c : Char) : Option Nat :=
  if '0' ≤ c && c ≤ '9' then some (c.toNat - 48)
  else if 'a' ≤ c && c ≤ 'f' then some (c.toNat - 87)
  else if 'A' ≤ c && c ≤ 'F' then some (c.toNat - 55)
  else none

/-- The value of digits in base sixteen. -/
def hexNumber? (digits : List Char) : Option Nat :=
  digits.foldl (fun n c => do return (← n) * 16 + (← hexValue? c)) (some 0)

/-- The character of a code point that is one. -/
def charOfCode? (n : Nat) : Option Char := if n.isValidChar then some (Char.ofNat n) else none

/-- The character that a backslash and a letter stand for. -/
def simpleEscape? : Char → Option Char
  | '"' => some '"'
  | '\\' => some '\\'
  | '/' => some '/'
  | 'b' => some '\x08'
  | 'f' => some '\x0c'
  | 'n' => some '\n'
  | 'r' => some '\r'
  | 't' => some '\t'
  | _ => none

/-- Reads a string after its opening quote.  A character beyond 16 bits may be written as two
escapes. -/
def readString? : List Char → Option (List Char × List Char)
  | [] => none
  | '"' :: rest => some ([], rest)
  | '\\' :: 'u' :: a :: b :: c :: d :: '\\' :: 'u' :: e :: f :: g :: h :: rest => do
    let high ← hexNumber? [a, b, c, d]
    let low ← hexNumber? [e, f, g, h]
    if 0xD800 ≤ high && high < 0xDC00 && 0xDC00 ≤ low && low < 0xE000 then
      let (text, after) ← readString? rest
      some (Char.ofNat (0x10000 + (high - 0xD800) * 0x400 + (low - 0xDC00)) :: text, after)
    else
      let first ← charOfCode? high
      let (text, after) ← readString? ('\\' :: 'u' :: e :: f :: g :: h :: rest)
      some (first :: text, after)
  | '\\' :: 'u' :: a :: b :: c :: d :: rest => do
    let first ← charOfCode? (← hexNumber? [a, b, c, d])
    let (text, after) ← readString? rest
    some (first :: text, after)
  | '\\' :: c :: rest => do
    let first ← simpleEscape? c
    let (text, after) ← readString? rest
    some (first :: text, after)
  | c :: rest =>
    if c.toNat < 32 then none
    else (readString? rest).map fun (text, after) => (c :: text, after)

/-- Reads the digits after a mark, at least one. -/
def readDigits? (cs : List Char) : Option (List Char × List Char) :=
  match cs.takeWhile Char.isDigit with
  | [] => none
  | digits => some (digits, cs.dropWhile Char.isDigit)

/-- Reads a fraction, if there is one. -/
def readFraction? : List Char → Option (List Char × List Char)
  | '.' :: rest => readDigits? rest
  | cs => some ([], cs)

/-- Reads an exponent, if there is one. -/
def readExponent? : List Char → Option (Option Int × List Char)
  | c :: rest =>
    if c = 'e' || c = 'E' then
      let (sign, rest) : Int × List Char :=
        match rest with
        | '-' :: rest => (-1, rest)
        | '+' :: rest => (1, rest)
        | rest => (1, rest)
      do
        let (digits, rest) ← readDigits? rest
        some (some (sign * ((← Text.digitsValue? digits) : Nat)), rest)
    else some (none, c :: rest)
  | [] => some (none, [])

/-- Appends digits to a number as long as 64 bits can hold it; with the number of digits left. -/
def appendDigits (n : Nat) : List Char → Nat × Nat
  | [] => (n, 0)
  | c :: rest =>
    let next := 10 * n + (c.toNat - '0'.toNat)
    if next < 0x10000000000000000 then appendDigits next rest else (n, rest.length + 1)

/-- A power of ten. -/
def tenTo (n : Nat) : Float := Float.ofScientific 1 false n

/-- A number moved by decimal places, in as few steps as powers of ten allow.  Each step rounds, so
the last binary place may be off; a number that grows too large is refused. -/
def moveBy? (x : Float) (places : Int) : Option Float :=
  if places < -308 then
    if x == 0 then some x else moveBy? (x / tenTo 308) (places + 308)
  else if places < 0 then some (x / tenTo places.natAbs)
  else if places ≤ 308 then
    let y := x * tenTo places.natAbs
    if y.isInf then none else some y
  else if x == 0 then some x
  else none
termination_by places.natAbs

/-- The number of a sign, digits before and after the point and an exponent.  Without point and
exponent it is an integer, if 64 bits can hold it and it is not minus zero.  Of other numbers the
digits count that 64 bits can hold. -/
def number? (negative : Bool) (whole fraction : List Char) (exponent : Option Int) :
    Option Value :=
  let (n, surplus) := appendDigits 0 whole
  let signed : Int := if negative then -n else n
  if fraction = [] && exponent = none && surplus = 0 && !(negative && n = 0) &&
      -0x8000000000000000 ≤ signed then
    some (.integer signed)
  else
    let (n, left) := appendDigits n fraction
    let places := exponent.getD 0 + surplus - (fraction.length - left : Nat)
    (moveBy? (Text.floatOfDecimal n 0) places).map fun size =>
      .float (if negative then -size else size)

/-- Reads a number. -/
def readNumber? (cs : List Char) : Option (Value × List Char) := do
  let (negative, cs) :=
    match cs with
    | '-' :: rest => (true, rest)
    | cs => (false, cs)
  let (whole, cs) ← readDigits? cs
  if whole.length ≠ 1 && whole.head? = some '0' then none
  else
    let (fraction, cs) ← readFraction? cs
    let (exponent, cs) ← readExponent? cs
    return (← number? negative whole fraction exponent, cs)

/-- One more than the number of levels that a text may nest lists and tables in. -/
def depthLimit : Nat := 128

mutual

/-- Reads a value inside `depth` lists and tables; `fuel` bounds the number of steps. -/
def readValue? : Nat → Nat → List Char → Option (Value × List Char)
  | 0, _, _ => none
  | fuel + 1, depth, cs =>
    match skipBlanks cs with
    | 'n' :: 'u' :: 'l' :: 'l' :: rest => some (.null, rest)
    | 't' :: 'r' :: 'u' :: 'e' :: rest => some (.bool true, rest)
    | 'f' :: 'a' :: 'l' :: 's' :: 'e' :: rest => some (.bool false, rest)
    | '"' :: rest => (readString? rest).map fun (s, rest) => (.text (String.ofList s), rest)
    | '[' :: rest =>
      if depth + 1 < depthLimit then
        match skipBlanks rest with
        | ']' :: rest => some (.list [], rest)
        | rest => (readItems? fuel (depth + 1) rest).map fun (items, rest) => (.list items, rest)
      else none
    | '{' :: rest =>
      if depth + 1 < depthLimit then
        match skipBlanks rest with
        | '}' :: rest => some (.table [], rest)
        | rest => (readEntries? fuel (depth + 1) rest).map fun (entries, rest) =>
            (.table (entries.foldl (fun t e => Value.setField e.1 e.2 t) []), rest)
      else none
    | cs => readNumber? cs

/-- Reads the items of a list, at least one, and its closing bracket. -/
def readItems? : Nat → Nat → List Char → Option (List Value × List Char)
  | 0, _, _ => none
  | fuel + 1, depth, cs => do
    let (first, cs) ← readValue? fuel depth cs
    match skipBlanks cs with
    | ',' :: rest => (readItems? fuel depth rest).map fun (items, rest) => (first :: items, rest)
    | ']' :: rest => some ([first], rest)
    | _ => none

/-- Reads the entries of a table, at least one, and its closing bracket. -/
def readEntries? : Nat → Nat → List Char → Option (List (String × Value) × List Char)
  | 0, _, _ => none
  | fuel + 1, depth, cs =>
    match skipBlanks cs with
    | '"' :: rest => do
      let (key, cs) ← readString? rest
      match skipBlanks cs with
      | ':' :: rest =>
        let (value, cs) ← readValue? fuel depth rest
        let first := (String.ofList key, value)
        match skipBlanks cs with
        | ',' :: rest => (readEntries? fuel depth rest).map fun (es, rest) => (first :: es, rest)
        | '}' :: rest => some ([first], rest)
        | _ => none
      | _ => none
    | _ => none

end

/-- The data of a JSON text.  Of any two steps in a row one reads a character, so twice the length
of the text bounds their number. -/
def parse? (text : String) : Option Value :=
  match readValue? (2 * text.toList.length + 2) 0 text.toList with
  | some (v, rest) => if skipBlanks rest = [] then some v else none
  | none => none

end CommandTemplates.Json
