/-
The columns of a table stand one below the other.

A column has one width for all lines, which no text in it exceeds, so that what stands before a
column takes the same number of characters on every line.  Filling up the last column and cutting
white space off the end of a line do not matter for this: both are about white space at the end.

* `Table.laid_eq_textOf` — a line is its texts side by side, up to blanks at the end;
* `Table.exists_laid_eq` — what stands before a column is as long as the columns before it;
* `Table.render_aligned` — the lines of a table without colors are aligned.
-/
import CommandTemplates.Proofs.Text.Lines
import CommandTemplates.Proofs.Table.Pieces
import Mathlib.Data.List.Forall2

namespace CommandTemplates

namespace Table

variable {t : Table} {text : String} {texts : List String} {ws : List Nat}

/-! ### Texts side by side -/

/-- Texts side by side, each filled up to its width, with two blanks between them. -/
def laid (texts : List String) (widths : List Nat) : List Char :=
  [' ', ' '].intercalate (List.zipWith
    (fun text width => text.toList ++ List.replicate (width - text.length) ' ') texts widths)

/-- Whether every text fits into its column. -/
abbrev Fits (texts : List String) (widths : List Nat) : Prop :=
  List.Forall₂ (fun text width => text.length ≤ width) texts widths

/-- The number of characters before the column at `index`: each column before it, with two blanks
behind. -/
def offset : List Nat → Nat → Nat
  | width :: widths, index + 1 => width + 2 + offset widths index
  | _, _ => 0

/-- A line that shows texts in columns, up to white space at its end. -/
structure Aligned (widths : List Nat) (texts : List String) (line : List Char) : Prop where
  side_by_side : Text.trimEnd line = Text.trimEnd (laid texts widths)
  fits : Fits texts widths
  /-- Every text starts where its column does, which is the same place on all lines. -/
  starts : ∀ (i : Nat) (text : String), texts[i]? = some text →
    Text.trimEnd text.toList <+: line.drop (offset widths i)

theorem toList_pad (text : String) (width : Nat) :
    (pad text width).toList = text.toList ++ List.replicate (width - text.length) ' ' := by
  rw [pad, String.toList_append, String.toList_ofList]

theorem length_pad {width : Nat} (h : text.length ≤ width) : (pad text width).length = width := by
  rw [pad, String.length_append, String.length_ofList, List.length_replicate]
  omega

theorem laid_cons_cons (text text' : String) (width width' : Nat) (texts : List String)
    (ws : List Nat) :
    laid (text :: text' :: texts) (width :: width' :: ws) =
      (pad text width).toList ++ ([' ', ' '] ++ laid (text' :: texts) (width' :: ws)) := by
  simp only [laid, List.zipWith_cons_cons, List.intercalate_cons_cons, List.append_assoc,
    toList_pad]

theorem laid_singleton (text : String) (width : Nat) :
    laid [text] [width] = text.toList ++ List.replicate (width - text.length) ' ' := by
  simp [laid]

/-- A line is its texts side by side, up to blanks at the end. -/
theorem laid_eq_textOf (cells : List (String × Nat × Bool)) :
    ∃ n, laid (cells.map (·.1)) (cells.map (·.2.1)) =
      textOf (pieces cells) ++ List.replicate n ' ' := by
  induction cells with
  | nil => exact ⟨0, rfl⟩
  | cons c cells ih =>
    -- the last text is not padded, so its blanks are the ones at the end
    cases cells with
    | nil => exact ⟨c.2.1 - c.1.length, by simp [laid_singleton, textOf, pieces]⟩
    | cons c' cells =>
      obtain ⟨n, hrest⟩ := ih
      refine ⟨n, ?_⟩
      simp only [List.map_cons] at hrest ⊢
      rw [laid_cons_cons, hrest, pieces_cons_cons]
      simp [textOf]

theorem trimEnd_textOf (cells : List (String × Nat × Bool)) :
    Text.trimEnd (textOf (pieces cells)) =
      Text.trimEnd (laid (cells.map (·.1)) (cells.map (·.2.1))) := by
  obtain ⟨n, hlaid⟩ := laid_eq_textOf cells
  rw [hlaid, Text.trimEnd_append_blanks Text.isBlank_of_mem_replicate]

/-! ### Where columns start -/

theorem offset_succ (width : Nat) (ws : List Nat) (i : Nat) :
    offset (width :: ws) (i + 1) = width + 2 + offset ws i := rfl

/-- What stands before a column is as long as the columns before it and the blanks between. -/
theorem exists_laid_eq (hfits : Fits texts ws)
    {i : Nat} (hi : texts[i]? = some text) :
    ∃ before after, laid texts ws = before ++ (text.toList ++ after) ∧
      before.length = offset ws i := by
  induction hfits generalizing i with
  | nil => simp at hi
  | @cons text₀ width₀ texts ws hfit hfits ih =>
    -- the first text is followed by blanks, and by the other texts if there are any
    have hfirst : ∃ after, laid (text₀ :: texts) (width₀ :: ws) = text₀.toList ++ after := by
      cases hfits with
      | nil => exact ⟨_, laid_singleton text₀ width₀⟩
      | cons => exact ⟨_, by rw [laid_cons_cons, pad, String.toList_append, List.append_assoc]⟩
    cases i with
    | zero =>
      obtain rfl : text₀ = text := by simpa using hi
      obtain ⟨after, hlaid⟩ := hfirst
      exact ⟨[], after, hlaid, rfl⟩
    | succ i =>
      obtain ⟨before, after, hrest, hlength⟩ := ih (by simpa using hi)
      cases hfits with
      | nil => simp at hi
      | cons =>
        refine ⟨(pad text₀ width₀).toList ++ ([' ', ' '] ++ before), after, ?_, ?_⟩
        · rw [laid_cons_cons, hrest, List.append_assoc, List.append_assoc]
        · simp only [List.length_append, List.length_cons, List.length_nil, String.length_toList,
            length_pad hfit, hlength, offset_succ]
          omega

/-- Texts side by side are aligned if each fits into its column. -/
theorem Aligned.of_fits {line : List Char}
    (hline : Text.trimEnd line = Text.trimEnd (laid texts ws))
    (hfits : Fits texts ws) :
    Aligned ws texts line := by
  refine ⟨hline, hfits, fun i text hi => ?_⟩
  obtain ⟨before, after, hlaid, hlength⟩ := exists_laid_eq hfits hi
  by_cases hblank : Text.trimEnd text.toList = []
  · rw [hblank]
    exact List.nil_prefix
  · -- a text that is not blank keeps what stands before it from being cut off
    have hshown : before ++ Text.trimEnd text.toList <+: line := by
      have htrimmed := Text.append_trimEnd_isPrefix hblank before after
      rw [← hlaid, ← hline] at htrimmed
      exact htrimmed.trans (Text.trimEnd_isPrefix line)
    obtain ⟨rest, rfl⟩ := hshown
    rw [← hlength, List.append_assoc, List.drop_left]
    exact List.prefix_append _ _

/-! ### Widths -/

theorem le_foldl_max (f : List String → Nat) (rows : List (List String)) (least : Nat) :
    least ≤ rows.foldl (fun w row => max w (f row)) least ∧
      ∀ row ∈ rows, f row ≤ rows.foldl (fun w row => max w (f row)) least := by
  induction rows generalizing least with
  | nil => exact ⟨Nat.le_refl _, by simp⟩
  | cons row rows ih =>
    obtain ⟨hleast, hrows⟩ := ih (max least (f row))
    rw [List.foldl_cons, List.forall_mem_cons]
    exact ⟨by omega, by omega, hrows⟩

theorem length_cell_le_width {rows : List (List String)} {row : List String} (h : row ∈ rows)
    (column : Column) (index : Nat) :
    (cell column index row).length ≤ width rows column index :=
  (le_foldl_max (fun row => (cell column index row).length) rows _).2 row h

theorem length_le_utf8ByteSize (text : String) : text.length ≤ text.utf8ByteSize := by
  obtain ⟨cs, rfl⟩ : ∃ cs, text = String.ofList cs := ⟨text.toList, String.ofList_toList.symm⟩
  induction cs with
  | nil => exact Nat.le_refl _
  | cons c cs ih =>
    have hsplit : String.ofList (c :: cs) = String.singleton c ++ String.ofList cs := by
      rw [← String.toList_inj]
      simp
    have hc : 0 < c.utf8Size := Char.utf8Size_pos c
    rw [hsplit, String.length_append, String.utf8ByteSize_append, String.utf8ByteSize_singleton,
      String.length_singleton]
    omega

theorem length_name_le_width (rows : List (List String)) (column : Column) (index : Nat) :
    column.name.length ≤ width rows column index :=
  (length_le_utf8ByteSize _).trans
    (le_foldl_max (fun row => (cell column index row).length) rows _).1

/-! ### Cells -/

/-- The longest beginning of a cell that is within the most characters of its column. -/
structure IsCut (most : Option Nat) (cell text : String) : Prop where
  beginning : text.toList <+: cell.toList
  within : ∀ n, most = some n → text.length ≤ n
  longest : ∀ other : List Char, other <+: cell.toList →
    (∀ n, most = some n → other.length ≤ n) → other <+: text.toList

theorem isCut_cut (column : Column) (cell : String) : IsCut column.most cell (cut column cell) := by
  cases hmost : column.most with
  | none => exact ⟨by simp [cut, hmost], by simp, by simp [cut, hmost]⟩
  | some n =>
    have hcut : (cut column cell).toList = cell.toList.take n := by simp [cut, hmost]
    refine ⟨hcut ▸ List.take_prefix _ _, ?_, fun other hother hlength => ?_⟩
    · rintro _ ⟨⟩
      rw [← String.length_toList, hcut, List.length_take]
      exact Nat.min_le_left _ _
    · rw [hcut, List.prefix_take_iff]
      exact ⟨hother, hlength n rfl⟩

/-! ### Tables -/

/-- The widths of the columns. -/
def widths (t : Table) : List Nat :=
  t.columns.zipIdx.map fun (column, index) => width t.rows column index

/-- The headers of the columns. -/
def headers (t : Table) : List String := t.columns.map (·.name)

/-- What the columns show of a row. -/
def shown (t : Table) (row : List String) : List String :=
  t.columns.zipIdx.map fun (column, index) => cell column index row

theorem headers_eq (t : Table) :
    t.headers = t.columns.zipIdx.map fun (column, _) => column.name := by
  have hmap : (t.columns.zipIdx.map Prod.fst).map (·.name) =
      t.columns.zipIdx.map fun (column, _) => column.name := List.map_map
  rw [List.zipIdx_map_fst] at hmap
  exact hmap

theorem headers_fit (t : Table) : Fits t.headers t.widths := by
  rw [headers_eq, widths, Fits, List.forall₂_map_left_iff, List.forall₂_map_right_iff,
    List.forall₂_same]
  exact fun (column, index) _ => length_name_le_width t.rows column index

theorem shown_fits {row : List String} (h : row ∈ t.rows) : Fits (t.shown row) t.widths := by
  rw [shown, widths, Fits, List.forall₂_map_left_iff, List.forall₂_map_right_iff,
    List.forall₂_same]
  exact fun (column, index) _ => length_cell_le_width h column index

theorem shown_isCut (t : Table) (row : List String) :
    List.Forall₂ (fun column text => IsCut column.1.most (row.getD column.2 "") text)
      t.columns.zipIdx (t.shown row) := by
  rw [shown, List.forall₂_map_right_iff, List.forall₂_same]
  exact fun (column, index) _ => isCut_cut column (row.getD index "")

theorem aligned_headerLine (t : Table) :
    Aligned t.widths t.headers (t.headerLine false).toList := by
  refine .of_fits ?_ t.headers_fit
  have htexts : t.headerCells.map (·.1) = t.headers := by
    rw [headers_eq, headerCells, List.map_map]
    rfl
  have hwidths : t.headerCells.map (·.2.1) = t.widths := List.map_map
  rw [toList_headerLine, flatMap_painted_false, trimEnd_textOf, htexts, hwidths]

theorem aligned_rowLine {row : List String} (h : row ∈ t.rows) :
    Aligned t.widths (t.shown row) (t.rowLine false row).toList := by
  refine .of_fits ?_ (shown_fits h)
  have htexts : (t.rowCells row).map (·.1) = t.shown row := List.map_map
  have hwidths : (t.rowCells row).map (·.2.1) = t.widths := List.map_map
  rw [toList_rowLine, flatMap_painted_false, Text.trimEnd_trimEnd, trimEnd_textOf, htexts, hwidths]

/-! ### The whole table -/

theorem newline_notMem_lines (hheaders : ∀ column ∈ t.columns, '\n' ∉ column.name.toList)
    (hcells : ∀ row ∈ t.rows, ∀ text ∈ row, '\n' ∉ text.toList) :
    ∀ line ∈ t.lines false, '\n' ∉ line.toList := by
  rw [lines]
  split
  · simp
  · rw [List.forall_mem_cons, List.forall_mem_map]
    refine ⟨?_, fun row hrow hmem => ?_⟩
    · rw [toList_headerLine]
      exact notMem_textOf (notMem_headerPieces (by decide) hheaders)
    · rw [toList_rowLine] at hmem
      exact notMem_textOf (notMem_rowPieces (by decide) (hcells row hrow))
        ((Text.trimEnd_isPrefix _).subset hmem)

/-- The lines of a table without colors, the headers first and then the rows in order, are aligned.
A row shows of each cell the longest beginning that the column allows; headers are not cut. -/
theorem render_aligned (t : Table) (hrows : t.rows ≠ [])
    (hheaders : ∀ column ∈ t.columns, '\n' ∉ column.name.toList)
    (hcells : ∀ row ∈ t.rows, ∀ text ∈ row, '\n' ∉ text.toList) :
    (∃ lines : List (List Char),
        Text.lines (t.render false).toList = lines.map (· ++ ['\n']) ∧
        List.Forall₂ (Aligned t.widths) (t.headers :: t.rows.map t.shown) lines) ∧
      ∀ row ∈ t.rows, List.Forall₂
        (fun column text => IsCut column.1.most (row.getD column.2 "") text)
        t.columns.zipIdx (t.shown row) := by
  refine ⟨⟨(t.lines false).map String.toList, ?_, ?_⟩, fun row _ => t.shown_isCut row⟩
  · have hrender : (t.render false).toList =
        ((t.lines false).map String.toList).flatMap (· ++ ['\n']) := by
      rw [toList_render, List.flatMap_map]
    rw [hrender, Text.lines_flatMap_newline]
    exact List.forall_mem_map.2 (newline_notMem_lines hheaders hcells)
  · rw [lines_of_rows hrows, List.map_cons, List.map_map]
    refine .cons t.aligned_headerLine ?_
    rw [List.forall₂_map_left_iff, List.forall₂_map_right_iff, List.forall₂_same]
    exact fun row hrow => aligned_rowLine hrow

/-- A header that counts two bytes for its second character, a cell that is cut, and a short row. -/
theorem render_aligned_short :
    let t : Table := ⟨[{ name := "ID" }, { name := "TITLE", most := some 3 }, { name := "NÄME" }],
      [["é-1", "lsof"], ["c", "x", "last "]]⟩
    t.rows ≠ [] ∧ (∀ column ∈ t.columns, '\n' ∉ column.name.toList) ∧
      (∀ row ∈ t.rows, ∀ text ∈ row, '\n' ∉ text.toList) ∧
      ∃ lines : List (List Char), Text.lines (t.render false).toList = lines.map (· ++ ['\n']) ∧
        List.Forall₂ (Aligned [3, 5, 5])
          [["ID", "TITLE", "NÄME"], ["é-1", "lso", ""], ["c", "x", "last "]] lines := by
  intro t
  have hheaders : ∀ column ∈ t.columns, '\n' ∉ column.name.toList := by decide
  have hcells : ∀ row ∈ t.rows, ∀ text ∈ row, '\n' ∉ text.toList := by decide
  obtain ⟨⟨lines, hlines, haligned⟩, -⟩ :=
    render_aligned t (List.cons_ne_nil _ _) hheaders hcells
  have hwidths : t.widths = [3, 5, 5] := by decide
  have htexts : t.headers :: t.rows.map t.shown =
      [["ID", "TITLE", "NÄME"], ["é-1", "lso", ""], ["c", "x", "last "]] := by decide
  exact ⟨List.cons_ne_nil _ _, hheaders, hcells, lines, hlines, hwidths ▸ htexts ▸ haligned⟩

end Table

end CommandTemplates
