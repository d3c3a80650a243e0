/-
Sets of characters as ascending lists of code point ranges.

The tables of this library state which characters have a property in version 17.0
of the Unicode standard; `contains` looks one up and stops at the first range beyond
it, so early characters are found early.
-/

namespace CommandTemplates.Text

/-- A set of code points: inclusive ranges, in ascending order. -/
abbrev CodePoints := List (Nat × Nat)

/-- Whether a code point lies in one of the ranges. -/
def CodePoints.containsCode : CodePoints → Nat → Bool
  | [], _ => false
  | (first, last) :: rest, n =>
    if n < first then false else if n ≤ last then true else containsCode rest n

/-- Whether a character lies in one of the ranges. -/
def CodePoints.contains (ranges : CodePoints) (c : Char) : Bool :=
  ranges.containsCode c.toNat

end CommandTemplates.Text
