/-
The character classes that names, blanks and quoting are defined by.

A placeholder name and the name of a custom variable are spelled with different
classes: combining marks count in the second (`isWordCharacter`) and not in the
first (`isNameCharacter`), numbers that are not decimal digits the other way round.
The second also goes by an earlier version of the Unicode standard, so it lacks what
the latest one added.
-/
import CommandTemplates.Text.Table.Alphabetic
import CommandTemplates.Text.Table.DecimalDigit
import CommandTemplates.Text.Table.Latest
import CommandTemplates.Text.Table.Mark
import CommandTemplates.Text.Table.Number

namespace CommandTemplates.Text

/-- Characters that a placeholder's name may hold: letters, numbers of every kind and `_`. -/
def isNameCharacter (c : Char) : Bool :=
  c == '_' || Table.alphabetic.contains c || Table.number.contains c

/-- Punctuation that joins words, such as the underscore. -/
def connectors : CodePoints :=
  [(0x5F, 0x5F), (0x203F, 0x2040), (0x2054, 0x2054), (0xFE33, 0xFE34), (0xFE4D, 0xFE4F),
   (0xFF3F, 0xFF3F)]

/-- The two invisible characters that join or part letters. -/
def joiners : CodePoints := [(0x200C, 0x200D)]

/-- Characters that the name of a custom variable may hold: the letters, marks, decimal digits,
joining punctuation and joiners of version 16.0 of the Unicode standard. -/
def isWordCharacter (c : Char) : Bool :=
  (Table.alphabetic.contains c || Table.decimalDigit.contains c || connectors.contains c ||
    Table.mark.contains c || joiners.contains c) && !Table.latest.contains c

/-- White space: the characters with the Unicode property White_Space. -/
def blanks : CodePoints :=
  [(0x9, 0xD), (0x20, 0x20), (0x85, 0x85), (0xA0, 0xA0), (0x1680, 0x1680), (0x2000, 0x200A),
   (0x2028, 0x2029), (0x202F, 0x202F), (0x205F, 0x205F), (0x3000, 0x3000)]

/-- Whether a character is white space. -/
def isBlank (c : Char) : Bool := blanks.contains c

/-- A text without the white space at its end. -/
def trimEnd (text : List Char) : List Char := (text.reverse.dropWhile isBlank).reverse

end CommandTemplates.Text
