/-
A line of a table as a list of pieces.

The pieces are the texts of the line, filled up, and the blanks between them.  Each has a flag that
says whether it is shown in color if there are colors, so that a line with colors and the line
without them have the same pieces.

* `Text.trimEnd_append` — white space at the end of two texts, one after the other;
* `Table.toList_headerLine`, `Table.toList_rowLine` — the lines of a table, with colors or without;
* `Table.notMem_headerPieces`, `Table.notMem_rowPieces` — there are no characters in them but those
  of the headers or cells, and blanks;
* `Table.toList_render` — the text of a table is its lines.
-/
import CommandTemplates.Table
import Mathlib.Data.List.DropRight

namespace CommandTemplates

namespace Text

variable {text blanks : List Char}

/-! ### White space at the end -/

theorem trimEnd_isPrefix (text : List Char) : trimEnd text <+: text := List.rdropWhile_prefix _ _

theorem trimEnd_eq_nil_iff : trimEnd text = [] ↔ ∀ c ∈ text, isBlank c = true :=
  List.rdropWhile_eq_nil_iff

theorem trimEnd_trimEnd (text : List Char) : trimEnd (trimEnd text) = trimEnd text :=
  List.rdropWhile_idempotent _ _

theorem exists_eq_trimEnd_append (text : List Char) :
    ∃ blanks, (∀ c ∈ blanks, isBlank c = true) ∧ text = trimEnd text ++ blanks :=
  ⟨text.rtakeWhile isBlank, fun _ => List.mem_rtakeWhile_imp,
    List.rdropWhile_append_rtakeWhile.symm⟩

theorem trimEnd_append (first second : List Char) :
    trimEnd (first ++ second) =
      if trimEnd second = [] then trimEnd first else first ++ trimEnd second := by
  simp only [trimEnd, List.reverse_append, List.dropWhile_append, List.isEmpty_iff,
    List.reverse_eq_nil_iff]
  split <;> simp

theorem trimEnd_append_blanks (h : ∀ c ∈ blanks, isBlank c = true) (text : List Char) :
    trimEnd (text ++ blanks) = trimEnd text := by
  rw [trimEnd_append, if_pos (trimEnd_eq_nil_iff.2 h)]

theorem isBlank_of_mem_replicate {n : Nat} : ∀ c ∈ List.replicate n ' ', isBlank c = true := by
  intro c hc
  rw [List.eq_of_mem_replicate hc]
  decide

/-- What stands before a text that is not blank, and the text, are not cut off. -/
theorem append_trimEnd_isPrefix (h : trimEnd text ≠ []) (before after : List Char) :
    before ++ trimEnd text <+: trimEnd (before ++ (text ++ after)) := by
  have hprefix : trimEnd text <+: trimEnd (text ++ after) := by
    rw [trimEnd_append]
    split
    · exact List.prefix_rfl
    · exact (trimEnd_isPrefix text).trans (List.prefix_append _ _)
  have hne : trimEnd (text ++ after) ≠ [] := fun hnil => h (List.prefix_nil.1 (hnil ▸ hprefix))
  rw [trimEnd_append, if_neg hne]
  exact (List.prefix_append_right_inj before).2 hprefix

end Text

namespace Table

variable {t : Table} {text : String}

/-! ### A line as a list of pieces -/

/-- The pieces of a line, which are its texts filled up and the blanks between them, each with the
flag whether colors are for it. -/
def pieces : List (String × Nat × Bool) → List (String × Bool)
  | [] => []
  | [(text, _, flag)] => [(text, flag)]
  | (text, width, flag) :: rest => (pad text width, flag) :: ("  ", false) :: pieces rest

theorem pieces_cons_cons (c c' : String × Nat × Bool) (cells : List (String × Nat × Bool)) :
    pieces (c :: c' :: cells) = (pad c.1 c.2.1, c.2.2) :: ("  ", false) :: pieces (c' :: cells) :=
  rfl

/-- The style of a text: a color if there are colors and they are for it. -/
def styleOf (code : Nat) (color flag : Bool) : String → String :=
  if color && flag then colored code else id

/-- A piece in its style. -/
def painted (code : Nat) (color : Bool) (piece : String × Bool) : List Char :=
  (styleOf code color piece.2 piece.1).toList

/-- The text of some pieces. -/
def textOf (ps : List (String × Bool)) : List Char := ps.flatMap fun p => p.1.toList

theorem flatMap_painted_false (code : Nat) (ps : List (String × Bool)) :
    ps.flatMap (painted code false) = textOf ps := rfl

theorem toList_styledLine (code : Nat) (color : Bool) (cells : List (String × Nat × Bool)) :
    (line (cells.map fun c => (c.1, c.2.1, styleOf code color c.2.2))).toList =
      (pieces cells).flatMap (painted code color) := by
  induction cells with
  | nil => rfl
  | cons c cells ih =>
    cases cells with
    | nil => simp [line, pieces, painted]
    | cons c' cells =>
      have hblanks : painted code color ("  ", false) = "  ".toList := by
        simp [painted, styleOf]
      simp only [List.map_cons] at ih ⊢
      rw [pieces_cons_cons, List.flatMap_cons, List.flatMap_cons, hblanks, ← ih,
        ← List.append_assoc]
      simp only [line, painted, String.toList_append]

theorem mem_pad {c : Char} {width : Nat} (h : c ∈ (pad text width).toList) :
    c ∈ text.toList ∨ c = ' ' := by
  rw [pad, String.toList_append, String.toList_ofList, List.mem_append] at h
  exact h.imp_right List.eq_of_mem_replicate

theorem notMem_pieces {c : Char} (hc : c ≠ ' ') {cells : List (String × Nat × Bool)}
    (h : ∀ cell ∈ cells, c ∉ cell.1.toList) : ∀ piece ∈ pieces cells, c ∉ piece.1.toList := by
  induction cells with
  | nil => simp [pieces]
  | cons cell cells ih =>
    obtain ⟨hcell, hcells⟩ := List.forall_mem_cons.1 h
    cases cells with
    | nil => simpa [pieces] using hcell
    | cons cell' cells =>
      rw [pieces_cons_cons, List.forall_mem_cons, List.forall_mem_cons]
      exact ⟨fun hmem => (mem_pad hmem).elim hcell hc, by simp [hc], ih hcells⟩

/-! ### Headers and rows -/

/-- The headers with the widths of their columns; colors are for all of them. -/
def headerCells (t : Table) : List (String × Nat × Bool) :=
  t.columns.zipIdx.map fun (column, index) => (column.name, width t.rows column index, true)

/-- The cells of a row with the widths of their columns; colors are for those of muted columns. -/
def rowCells (t : Table) (row : List String) : List (String × Nat × Bool) :=
  t.columns.zipIdx.map fun (column, index) =>
    (cell column index row, width t.rows column index, column.muted)

theorem toList_headerLine (t : Table) (color : Bool) :
    (t.headerLine color).toList = (pieces t.headerCells).flatMap (painted headerColor color) := by
  rw [← toList_styledLine, headerLine, headerCells, List.map_map]
  simp [styleOf, Function.comp_def]

theorem toList_rowLine (t : Table) (color : Bool) (row : List String) :
    (t.rowLine color row).toList =
      Text.trimEnd ((pieces (t.rowCells row)).flatMap (painted mutedColor color)) := by
  rw [← toList_styledLine, rowLine, rowCells, List.map_map, String.toList_ofList]
  rfl

theorem notMem_cell {c : Char} {row : List String} (h : ∀ text ∈ row, c ∉ text.toList)
    (column : Column) (index : Nat) : c ∉ (cell column index row).toList := by
  have hget : c ∉ (row.getD index "").toList := by
    rw [List.getD_eq_getElem?_getD]
    cases hrow : row[index]? with
    | none => exact List.not_mem_nil
    | some text => exact h text (List.mem_of_getElem? hrow)
  rw [cell, cut]
  split
  · rw [String.toList_ofList]
    exact fun hmem => hget (List.mem_of_mem_take hmem)
  · exact hget

theorem notMem_headerPieces {c : Char} (hc : c ≠ ' ')
    (h : ∀ column ∈ t.columns, c ∉ column.name.toList) :
    ∀ piece ∈ pieces t.headerCells, c ∉ piece.1.toList := by
  refine notMem_pieces hc fun cell hcell => ?_
  obtain ⟨⟨column, index⟩, hcolumn, rfl⟩ := List.mem_map.1 hcell
  exact h column (List.fst_mem_of_mem_zipIdx hcolumn)

theorem notMem_rowPieces {c : Char} (hc : c ≠ ' ') {row : List String}
    (h : ∀ text ∈ row, c ∉ text.toList) :
    ∀ piece ∈ pieces (t.rowCells row), c ∉ piece.1.toList := by
  refine notMem_pieces hc fun cell hcell => ?_
  obtain ⟨⟨column, index⟩, -, rfl⟩ := List.mem_map.1 hcell
  exact notMem_cell h column index

theorem notMem_textOf {c : Char} {ps : List (String × Bool)} (h : ∀ p ∈ ps, c ∉ p.1.toList) :
    c ∉ textOf ps := by
  intro hmem
  obtain ⟨p, hp, hc⟩ := List.mem_flatMap.1 hmem
  exact h p hp hc

/-! ### The whole table -/

theorem toList_render (t : Table) (color : Bool) :
    (t.render color).toList = (t.lines color).flatMap fun line => line.toList ++ ['\n'] := by
  rw [render, String.toList_join, List.flatMap_map]
  simp

theorem lines_of_rows (hrows : t.rows ≠ []) (color : Bool) :
    t.lines color = t.headerLine color :: t.rows.map (t.rowLine color) := if_neg hrows

end Table

end CommandTemplates
