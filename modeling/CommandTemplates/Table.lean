/-
Text tables with columns aligned to the left.

Widths come from the data: a cell counts its characters, cut to the most that
its column allows, and a header counts its bytes.  Two blanks stand between
columns, the last column is not filled up, and white space at the end of a row is
left out.  Colors are added after filling up, so they change no width.
-/
import CommandTemplates.Text.Classes

namespace CommandTemplates

/-- A column: its header, whether its cells are secondary, and the most characters of a cell. -/
structure Column where
  name : String
  muted : Bool := false
  most : Option Nat := none
  deriving DecidableEq, Repr

/-- A table of texts; a short row has empty cells at its end. -/
structure Table where
  columns : List Column
  rows : List (List String)
  deriving DecidableEq, Repr

namespace Table

/-- A text in a terminal color. -/
def colored (code : Nat) (text : String) : String :=
  "\x1b[38;5;" ++ toString code ++ "m" ++ text ++ "\x1b[0m"

/-- The color of headers. -/
def headerColor : Nat := 74

/-- The color of secondary text. -/
def mutedColor : Nat := 240

/-- The characters of a cell that its column shows. -/
def cut (column : Column) (cell : String) : String :=
  match column.most with
  | some n => String.ofList (cell.toList.take n)
  | none => cell

/-- The cell of a row in the column at `index`, cut. -/
def cell (column : Column) (index : Nat) (row : List String) : String :=
  cut column (row.getD index "")

/-- The width of the column at `index`. -/
def width (rows : List (List String)) (column : Column) (index : Nat) : Nat :=
  rows.foldl (fun w row => max w (cell column index row).length) column.name.utf8ByteSize

/-- A text with blanks up to a width.  Any width is filled, as it is documented for formatting and
as releases do it that keep widths as machine words; newer ones fail beyond 16 bits. -/
def pad (text : String) (width : Nat) : String :=
  text ++ String.ofList (List.replicate (width - text.length) ' ')

/-- Cells side by side: each but the last filled up to its width, then styled. -/
def line : List (String × Nat × (String → String)) → String
  | [] => ""
  | [(text, _, style)] => style text
  | (text, width, style) :: rest => style (pad text width) ++ "  " ++ line rest

/-- The header line. -/
def headerLine (t : Table) (color : Bool) : String :=
  line (t.columns.zipIdx.map fun (column, index) =>
    (column.name, width t.rows column index, if color then colored headerColor else id))

/-- The line of a row. -/
def rowLine (t : Table) (color : Bool) (row : List String) : String :=
  let text := line (t.columns.zipIdx.map fun (column, index) =>
    (cell column index row, width t.rows column index,
      if color && column.muted then colored mutedColor else id))
  String.ofList (Text.trimEnd text.toList)

/-- The lines of a table; a table without rows has none. -/
def lines (t : Table) (color : Bool) : List String :=
  if t.rows = [] then [] else t.headerLine color :: t.rows.map (t.rowLine color)

/-- The text of a table. -/
def render (t : Table) (color : Bool) : String :=
  String.join ((t.lines color).map (· ++ "\n"))

end Table

end CommandTemplates
