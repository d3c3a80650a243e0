/-
Text in quotes, with everything that would not show as itself escaped: quotes,
backslashes, line breaks, characters without a printed form, letters that show as
blanks and characters that would combine with the one before them.
-/
import CommandTemplates.Text.Table.GraphemeExtend
import CommandTemplates.Text.Table.Unprintable

namespace CommandTemplates.Text

/-- The digits of a number in base sixteen, in lowercase. -/
def hexDigits (n : Nat) : List Char := Nat.toDigits 16 n

/-- Letters that stand for a missing letter and show as a blank: the Hangul fillers. -/
def fillers : CodePoints := [(0x115F, 0x1160), (0x3164, 0x3164), (0xFFA0, 0xFFA0)]

/-- Characters that extend the one before them and still have a width of their own: the
halfwidth voicing marks of Katakana. -/
def spacingExtenders : CodePoints := [(0xFF9E, 0xFF9F)]

/-- Whether a character does not show as itself: it has no printed form, shows as a blank or
combines with the one before it. -/
def isHidden (c : Char) : Bool :=
  Table.unprintable.contains c || fillers.contains c ||
    Table.graphemeExtend.contains c && !spacingExtenders.contains c

/-- How one character is written between quotes. -/
def quoteCharacter (c : Char) : List Char :=
  if c = '\x00' then ['\\', '0']
  else if c = '\t' then ['\\', 't']
  else if c = '\r' then ['\\', 'r']
  else if c = '\n' then ['\\', 'n']
  else if c = '"' || c = '\\' then ['\\', c]
  else if isHidden c then
    "\\u\x7b".toList ++ hexDigits c.toNat ++ "\x7d".toList
  else [c]

/-- A text in quotes. -/
def quoted (text : String) : String :=
  "\"" ++ String.ofList (text.toList.flatMap quoteCharacter) ++ "\""

end CommandTemplates.Text
