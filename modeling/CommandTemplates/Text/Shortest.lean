/-
The fewest decimal digits that read back as the same floating-point number.

A finite number is `m · 2^q`, and all reals nearer to it than to its neighbours
read back as it, the middle points too if `m` is even.  For one digit, two
digits and so on, the two decimals on either side of the number are tried; the
first that lies in the interval is the answer, the nearer one if both do.
-/

namespace CommandTemplates.Text

/-- The number `digits · 10^exponent`. -/
structure Decimal where
  digits : Nat
  exponent : Int
  deriving DecidableEq, Repr

namespace Shortest

/-- The reals that read back as a number, and the number itself, in units of a power of two: the
ends are `low` and `high`, and belong to the interval if `closed`. -/
structure Interval where
  low : Nat
  value : Nat
  high : Nat
  /-- The exponent of two of the unit. -/
  unit : Int
  closed : Bool

/-- The interval of `mantissa · 2^exponent`.  Below a power of two the next number is half as far
away, unless the number is the least normal one or smaller. -/
def Interval.of (mantissa : Nat) (exponent : Int) : Interval where
  low := if mantissa = 1 <<< 52 && exponent ≠ -1074 then 4 * mantissa - 1 else 4 * mantissa - 2
  value := 4 * mantissa
  high := 4 * mantissa + 2
  unit := exponent - 2
  closed := mantissa % 2 = 0

/-- Compares `n · 10^k` with `u · 2^unit`, both without fractions. -/
def compareScaled (n : Nat) (k : Int) (u : Nat) (unit : Int) : Ordering :=
  compare ((n * Nat.pow 10 k.toNat) <<< (-unit).toNat) ((u * Nat.pow 10 (-k).toNat) <<< unit.toNat)

/-- Whether `n · 10^k` lies in the interval. -/
def Interval.holds (i : Interval) (n : Nat) (k : Int) : Bool :=
  let low := compareScaled n k i.low i.unit
  let high := compareScaled n k i.high i.unit
  (low = .gt || (i.closed && low = .eq)) && (high = .lt || (i.closed && high = .eq))

/-- The greatest `n` with `n · 10^k` at most the number. -/
def Interval.below (i : Interval) (k : Int) : Nat :=
  ((i.value * Nat.pow 10 (-k).toNat) <<< i.unit.toNat) / (Nat.pow 10 k.toNat <<< (-i.unit).toNat)

/-- The nearest decimal in the interval that is a multiple of `10^k`. -/
def Interval.onGrid? (i : Interval) (k : Int) : Option Decimal :=
  let n := i.below k
  match i.holds n k && n ≠ 0, i.holds (n + 1) k with
  | true, true =>
    if compareScaled (2 * n + 1) k (2 * i.value) i.unit = .gt then some ⟨n, k⟩
    else some ⟨n + 1, k⟩
  | true, false => some ⟨n, k⟩
  | false, true => some ⟨n + 1, k⟩
  | false, false => none

/-- The exponent of ten of the number's first digit and one more. -/
def Interval.magnitude (i : Interval) : Int :=
  let estimate : Int := ((Nat.log2 i.value + i.unit) * 30103) / 100000 - 1
  ((List.range 4).map fun (j : Nat) => estimate + (j : Int)).findSome? (fun k =>
    if compareScaled 1 k i.value i.unit = .gt then some k else none) |>.getD (estimate + 4)

/-- The shortest decimal of `mantissa · 2^exponent`; seventeen digits are always enough. -/
def shortest (mantissa : Nat) (exponent : Int) : Decimal :=
  let i := Interval.of mantissa exponent
  ((List.range 17).findSome? fun (j : Nat) => i.onGrid? (i.magnitude - ((j : Int) + 1))).getD
    ⟨i.below (i.magnitude - 17), i.magnitude - 17⟩

end Shortest

/-- The decimal text of a number: positional from 10^-5 to 10^16, with at least one digit after the
point, and otherwise with an exponent. -/
def decimalText (d : Decimal) : String :=
  let digits := Nat.toDigits 10 d.digits
  let trimmed := (digits.reverse.dropWhile (· = '0')).reverse
  let exponent := d.exponent + (digits.length - trimmed.length : Nat)
  let point : Int := trimmed.length + exponent
  let zeros (n : Int) := List.replicate n.toNat '0'
  String.ofList <|
    if 0 ≤ exponent && point ≤ 16 then trimmed ++ zeros exponent ++ ['.', '0']
    else if 0 < point && point ≤ 16 then
      trimmed.take point.toNat ++ '.' :: trimmed.drop point.toNat
    else if -5 < point && point ≤ 0 then ['0', '.'] ++ zeros (-point) ++ trimmed
    else
      let fraction := if trimmed.length = 1 then [] else '.' :: trimmed.drop 1
      trimmed.take 1 ++ fraction ++ 'e' :: (toString (point - 1)).toList

/-- The text of a finite floating-point number; `none` for the others. -/
def floatText? (x : Float) : Option String :=
  let bits := x.toBits.toNat
  let sign := if bits >>> 63 = 1 then "-" else ""
  let exponent : Nat := (bits >>> 52) % 2048
  let fraction := bits % (1 <<< 52)
  if exponent = 2047 then none
  else if exponent = 0 && fraction = 0 then some (sign ++ "0.0")
  else
    let mantissa := if exponent = 0 then fraction else fraction + (1 <<< 52)
    let power : Int := if exponent = 0 then -1074 else (exponent : Int) - 1075
    some (sign ++ decimalText (Shortest.shortest mantissa power))

/-- The floating-point number nearest to `digits · 10^exponent`. -/
def floatOfDecimal (digits : Nat) (exponent : Int) : Float :=
  let magnitude := (Nat.toDigits 10 digits).length + exponent
  if digits = 0 || magnitude < -400 then 0.0
  else if 400 < magnitude then 1.0 / 0.0
  else Float.ofScientific digits (exponent < 0) exponent.natAbs

end CommandTemplates.Text
