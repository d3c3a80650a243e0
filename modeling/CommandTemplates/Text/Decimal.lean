/-
Decimal digits: numbers written with at least so many of them, and read back.
-/

namespace CommandTemplates.Text

/-- The decimal digits of a number, with zeros in front up to `width` digits. -/
def padded (width n : Nat) : String :=
  let digits := Nat.toDigits 10 n
  String.ofList (List.replicate (width - digits.length) '0' ++ digits)

/-- The value of a decimal digit. -/
def digitValue? (c : Char) : Option Nat :=
  if '0' ≤ c && c ≤ '9' then some (c.toNat - 48) else none

/-- The value of a list of decimal digits. -/
def digitsValue? (digits : List Char) : Option Nat :=
  digits.foldl (fun n c => do return (← n) * 10 + (← digitValue? c)) (some 0)

/-- Reads exactly `count` decimal digits. -/
def takeNumber? (count : Nat) (cs : List Char) : Option (Nat × List Char) :=
  if (cs.take count).length = count then
    (digitsValue? (cs.take count)).map fun n => (n, cs.drop count)
  else none

/-- Reads one given character. -/
def takeChar? (c : Char) : List Char → Option (List Char)
  | d :: rest => if d = c then some rest else none
  | [] => none

end CommandTemplates.Text
