/-
Lowercase of a text.

Every character has its own mapping but one: a capital sigma becomes `ς` at the
end of a word and `σ` elsewhere.  A sigma ends a word if a cased character comes
before it and none after it, where case-ignorable characters in between are
looked past.
-/
import CommandTemplates.Text.Table.CaseIgnorable
import CommandTemplates.Text.Table.Cased
import CommandTemplates.Text.Table.Lowercase

namespace CommandTemplates.Text

/-- Whether a run holds a code point. -/
def Table.CaseRun.holds (run : Table.CaseRun) (n : Nat) : Bool :=
  run.first ≤ n && n ≤ run.last && (n - run.first) % run.step == 0

/-- The lowercase of one character by itself. -/
def lowerCharacter (c : Char) : List Char :=
  if c = '\u0130' then ['i', '\u0307']
  else
    match Table.lowercase.find? (·.holds c.toNat) with
    | some run => [Char.ofNat (c.toNat + run.shift).toNat]
    | none => [c]

/-- Whether the first character that casing does not look past is a cased one. -/
def meetsCased (text : List Char) : Bool :=
  match text.dropWhile Table.caseIgnorable.contains with
  | c :: _ => Table.cased.contains c
  | [] => false

/-- The lowercase of a text that follows `before`, given in reverse. -/
def lowerAfter (before : List Char) : List Char → List Char
  | [] => []
  | c :: rest =>
    (if c = 'Σ' then [if meetsCased before && !meetsCased rest then 'ς' else 'σ']
      else lowerCharacter c) ++ lowerAfter (c :: before) rest

/-- The lowercase of a text. -/
def lowercase (text : String) : String := String.ofList (lowerAfter [] text.toList)

end CommandTemplates.Text
