/-
What colors change of a table.

Color sequences stand around whole texts, after these are filled up, so that taking them out of a
line gives back the texts.  But the sequence at the end of a secondary column is no white space.
What is cut off the end of a line is therefore only the white space after the last secondary
column, and where nothing else follows, white space before the sequence stays.

* `Text.ShowsAs` — a text that shows as another, whatever follows it;
* `Table.trimEnd_painted` — the white space at the end of a line in colors;
* `Table.showsAs_rowLine` — a row in colors, without the color sequences;
* `Table.uncolored_render` — when the colors of a table change no text.
-/
import CommandTemplates.Proofs.Table.Pieces
import Mathlib.Data.List.Forall2

namespace CommandTemplates

namespace Text

variable {text styled plain styled' plain' : List Char}

/-- The color sequences of a text taken out of it; each goes from an escape character to the next
`m`.  The flag says whether the text starts within a sequence. -/
def uncoloredFrom : Bool → List Char → List Char
  | _, [] => []
  | false, c :: cs => if c = '\x1b' then uncoloredFrom true cs else c :: uncoloredFrom false cs
  | true, c :: cs => uncoloredFrom (c ≠ 'm') cs

/-- A text without its color sequences. -/
def uncolored (text : List Char) : List Char := uncoloredFrom false text

/-- Whether a text is, without its color sequences, another one, whatever follows it. -/
def ShowsAs (styled plain : List Char) : Prop :=
  ∀ rest, uncolored (styled ++ rest) = plain ++ uncolored rest

theorem ShowsAs.uncolored_eq (h : ShowsAs styled plain) : uncolored styled = plain := by
  have hnil := h []
  rw [List.append_nil] at hnil
  exact hnil.trans (List.append_nil plain)

theorem ShowsAs.uncolored (h : ShowsAs styled plain) : ShowsAs styled (Text.uncolored styled) :=
  h.uncolored_eq.symm ▸ h

theorem ShowsAs.append (h : ShowsAs styled plain) (h' : ShowsAs styled' plain') :
    ShowsAs (styled ++ styled') (plain ++ plain') := by
  intro rest
  rw [List.append_assoc, h, h', List.append_assoc]

theorem ShowsAs.flatMap {α : Type} {l : List α} {f g : α → List Char}
    (h : ∀ a ∈ l, ShowsAs (f a) (g a)) : ShowsAs (l.flatMap f) (l.flatMap g) := by
  induction l with
  | nil => exact fun rest => rfl
  | cons a l ih =>
    obtain ⟨ha, hl⟩ := List.forall_mem_cons.1 h
    rw [List.flatMap_cons, List.flatMap_cons]
    exact ha.append (ih hl)

/-- Without an escape character there is no sequence. -/
theorem showsAs_of_notMem (h : '\x1b' ∉ text) : ShowsAs text text := by
  intro rest
  induction text with
  | nil => rfl
  | cons c text ih =>
    rw [List.mem_cons, not_or] at h
    rw [List.cons_append, uncolored, uncoloredFrom, if_neg (Ne.symm h.1)]
    exact congrArg (c :: ·) (ih h.2)

theorem uncoloredFrom_true {code : List Char} (h : 'm' ∉ code) (rest : List Char) :
    uncoloredFrom true (code ++ 'm' :: rest) = uncolored rest := by
  induction code with
  | nil => rfl
  | cons c code ih =>
    rw [List.mem_cons, not_or] at h
    rw [List.cons_append, uncoloredFrom, decide_eq_true (Ne.symm h.1), ih h.2]

/-- A sequence shows nothing. -/
theorem showsAs_sequence {code : List Char} (h : 'm' ∉ code) :
    ShowsAs ('\x1b' :: (code ++ ['m'])) [] := by
  intro rest
  rw [List.cons_append, List.append_assoc, uncolored, uncoloredFrom, if_pos rfl]
  exact uncoloredFrom_true h rest

end Text

namespace Table

variable {t : Table}

/-! ### Colored texts -/

theorem toList_colored (code : Nat) (text : String) : (colored code text).toList =
    '\x1b' :: (("[38;5;".toList ++ (toString code).toList) ++ ['m']) ++
      (text.toList ++ ('\x1b' :: ("[0".toList ++ ['m']))) := by
  simp [colored, String.toList_append]

theorem m_notMem_toString (code : Nat) : 'm' ∉ (toString code).toList := by
  intro h
  have hdigit : 'm'.isDigit = true :=
    Nat.isDigit_of_mem_toDigits (b := 10) (n := code) (by decide) (by decide) (by simpa using h)
  exact absurd hdigit (by decide)

theorem showsAs_colored {text : String} (h : '\x1b' ∉ text.toList) (code : Nat) :
    Text.ShowsAs (colored code text).toList text.toList := by
  have hstart : 'm' ∉ "[38;5;".toList ++ (toString code).toList := by
    rw [List.mem_append, not_or]
    exact ⟨by decide, m_notMem_toString code⟩
  have hend : 'm' ∉ "[0".toList := by decide
  rw [toList_colored]
  have hshows := (Text.showsAs_sequence hstart).append
    ((Text.showsAs_of_notMem h).append (Text.showsAs_sequence hend))
  rwa [List.nil_append, List.append_nil] at hshows

theorem trimEnd_colored (before : List Char) (code : Nat) (text : String) :
    Text.trimEnd (before ++ (colored code text).toList) = before ++ (colored code text).toList := by
  have hend : Text.trimEnd ('\x1b' :: ("[0".toList ++ ['m'])) =
      '\x1b' :: ("[0".toList ++ ['m']) := by decide
  rw [toList_colored, ← List.append_assoc, ← List.append_assoc, Text.trimEnd_append, hend,
    if_neg (List.cons_ne_nil _ _)]

theorem showsAs_painted {ps : List (String × Bool)} (h : ∀ p ∈ ps, '\x1b' ∉ p.1.toList)
    (code : Nat) (color : Bool) :
    Text.ShowsAs (ps.flatMap (painted code color)) (textOf ps) := by
  refine Text.ShowsAs.flatMap fun p hp => ?_
  rw [painted, styleOf]
  split
  · exact showsAs_colored (h p hp) code
  · exact Text.showsAs_of_notMem (h p hp)

/-! ### White space at the end -/

/-- The pieces of a line up to the last one for which colors are. -/
def through (ps : List (String × Bool)) : List (String × Bool) := ps.rdropWhile (!·.2)

/-- The pieces of a line after the last one for which colors are. -/
def after (ps : List (String × Bool)) : List (String × Bool) := ps.rtakeWhile (!·.2)

theorem through_append_after (ps : List (String × Bool)) : through ps ++ after ps = ps :=
  List.rdropWhile_append_rtakeWhile

theorem painted_after (code : Nat) (color : Bool) (ps : List (String × Bool)) :
    (after ps).flatMap (painted code color) = textOf (after ps) := by
  refine List.flatMap_congr fun p hp => ?_
  have hflag : p.2 = false := by simpa using List.mem_rtakeWhile_imp hp
  simp [painted, styleOf, hflag]

/-- The last piece in color ends with a sequence, which is no white space. -/
theorem trimEnd_through (code : Nat) (ps : List (String × Bool)) :
    Text.trimEnd ((through ps).flatMap (painted code true)) =
      (through ps).flatMap (painted code true) := by
  induction ps using List.reverseRecOn with
  | nil => rfl
  | append_singleton ps p ih =>
    -- the last piece is dropped, or it is the one in color
    rw [through, List.rdropWhile_concat]
    split
    · exact ih
    · next hflag =>
      have hp : painted code true p = (colored code p.1).toList := by
        rw [painted, styleOf, Bool.true_and, if_pos (by simpa using hflag)]
      rw [List.flatMap_append, List.flatMap_singleton, hp, trimEnd_colored]

/-- Only what follows the last piece in color loses white space at its end. -/
theorem trimEnd_painted (code : Nat) (ps : List (String × Bool)) :
    Text.trimEnd (ps.flatMap (painted code true)) =
      (through ps).flatMap (painted code true) ++
        Text.trimEnd (textOf (after ps)) := by
  conv_lhs => rw [← through_append_after ps, List.flatMap_append, painted_after]
  rw [Text.trimEnd_append]
  split
  · next hblank => rw [trimEnd_through, hblank, List.append_nil]
  · rfl

/-! ### Headers and rows -/

/-- The text of a row up to the last muted column. -/
def throughMuted (t : Table) (row : List String) : List Char :=
  textOf (through (pieces (t.rowCells row)))

/-- The text of a row after the last muted column. -/
def afterMuted (t : Table) (row : List String) : List Char :=
  textOf (after (pieces (t.rowCells row)))

theorem rowLine_plain (t : Table) (row : List String) :
    (t.rowLine false row).toList = Text.trimEnd (t.throughMuted row ++ t.afterMuted row) := by
  rw [toList_rowLine, flatMap_painted_false, throughMuted, afterMuted, textOf, textOf, textOf,
    ← List.flatMap_append, through_append_after]

theorem showsAs_headerLine (h : ∀ column ∈ t.columns, '\x1b' ∉ column.name.toList) :
    Text.ShowsAs (t.headerLine true).toList (t.headerLine false).toList := by
  rw [toList_headerLine, toList_headerLine]
  exact showsAs_painted (notMem_headerPieces (by decide) h) headerColor true

/-- A row in colors shows everything up to the last muted column, also white space at its end. -/
theorem showsAs_rowLine {row : List String} (h : ∀ text ∈ row, '\x1b' ∉ text.toList) :
    Text.ShowsAs (t.rowLine true row).toList
      (t.throughMuted row ++ Text.trimEnd (t.afterMuted row)) := by
  have hpieces : ∀ p ∈ pieces (t.rowCells row), '\x1b' ∉ p.1.toList :=
    notMem_rowPieces (by decide) h
  have hafter : '\x1b' ∉ t.afterMuted row :=
    notMem_textOf fun p hp => hpieces p ((List.rtakeWhile_suffix _ _).subset hp)
  rw [toList_rowLine, trimEnd_painted]
  refine (showsAs_painted ?_ mutedColor true).append (Text.showsAs_of_notMem ?_)
  · exact fun p hp => hpieces p ((List.rdropWhile_prefix _ _).subset hp)
  · exact fun hmem => hafter ((Text.trimEnd_isPrefix _).subset hmem)

/-- In colors a row is what it is without, and white space behind it. -/
theorem exists_uncolored_rowLine {row : List String} (h : ∀ text ∈ row, '\x1b' ∉ text.toList) :
    ∃ blanks, (∀ c ∈ blanks, Text.isBlank c = true) ∧
      Text.uncolored (t.rowLine true row).toList = (t.rowLine false row).toList ++ blanks := by
  rw [(showsAs_rowLine h).uncolored_eq, rowLine_plain, Text.trimEnd_append]
  split
  · -- only blanks follow the last piece in color, so the white space before them is kept in
    -- colors
    next hblank =>
    rw [hblank, List.append_nil]
    exact Text.exists_eq_trimEnd_append _
  · exact ⟨[], by simp, (List.append_nil _).symm⟩

theorem uncolored_rowLine_eq_iff {row : List String} (h : ∀ text ∈ row, '\x1b' ∉ text.toList) :
    Text.uncolored (t.rowLine true row).toList = (t.rowLine false row).toList ↔
      (Text.trimEnd (t.afterMuted row) = [] →
        Text.trimEnd (t.throughMuted row) = t.throughMuted row) := by
  rw [(showsAs_rowLine h).uncolored_eq, rowLine_plain, Text.trimEnd_append]
  split
  · next hblank =>
    rw [hblank, List.append_nil]
    exact ⟨fun heq _ => heq.symm, fun hthrough => (hthrough rfl).symm⟩
  · next hne => exact ⟨fun _ hblank => absurd hblank hne, fun _ => rfl⟩

/-! ### The whole table -/

theorem length_flatMap_le {α β : Type} {l : List α} {f g : α → List β}
    (h : ∀ a ∈ l, (f a).length ≤ (g a).length) : (l.flatMap f).length ≤ (l.flatMap g).length := by
  induction l with
  | nil => exact Nat.le_refl _
  | cons a l ih =>
    obtain ⟨ha, hl⟩ := List.forall_mem_cons.1 h
    rw [List.flatMap_cons, List.flatMap_cons, List.length_append, List.length_append]
    exact Nat.add_le_add ha (ih hl)

/-- Where no text is shorter than its counterpart, all together are equal only if each is. -/
theorem flatMap_eq_iff {α β : Type} {l : List α} {f g : α → List β}
    (h : ∀ a ∈ l, (f a).length ≤ (g a).length) :
    l.flatMap g = l.flatMap f ↔ ∀ a ∈ l, g a = f a := by
  refine ⟨fun heq => ?_, List.flatMap_congr⟩
  induction l with
  | nil => simp
  | cons a l ih =>
    obtain ⟨ha, hl⟩ := List.forall_mem_cons.1 h
    rw [List.flatMap_cons, List.flatMap_cons] at heq
    -- if the first text were longer than its counterpart, all together would be longer
    have hlength : (g a).length = (f a).length := by
      have hall := congrArg List.length heq
      have hothers := length_flatMap_le hl
      rw [List.length_append, List.length_append] at hall
      omega
    obtain ⟨hfirst, hothers⟩ := List.append_inj heq hlength
    rw [List.forall_mem_cons]
    exact ⟨hfirst, ih hl hothers⟩

/-- Colors change no text but white space at the ends of rows, and none at all if in every row
something follows the last muted column or the text up to this column does not end with white
space. -/
theorem uncolored_render (t : Table)
    (hheaders : ∀ column ∈ t.columns, '\x1b' ∉ column.name.toList)
    (hcells : ∀ row ∈ t.rows, ∀ text ∈ row, '\x1b' ∉ text.toList) :
    Text.uncolored (t.render true).toList =
        (t.lines true).flatMap (fun line => Text.uncolored line.toList ++ ['\n']) ∧
      List.Forall₂ (fun styled plain => ∃ blanks, (∀ c ∈ blanks, Text.isBlank c = true) ∧
        Text.uncolored styled.toList = plain.toList ++ blanks) (t.lines true) (t.lines false) ∧
      (Text.uncolored (t.render true).toList = (t.render false).toList ↔
        ∀ row ∈ t.rows, Text.trimEnd (t.afterMuted row) = [] →
          Text.trimEnd (t.throughMuted row) = t.throughMuted row) := by
  -- without rows there is nothing to show, not even the headers
  by_cases hrows : t.rows = []
  · have hnone : ∀ color, t.lines color = [] := fun color => if_pos hrows
    rw [toList_render, toList_render, hnone, hnone, hrows]
    exact ⟨rfl, .nil, by simp [Text.uncolored, Text.uncoloredFrom]⟩
  have hheader := showsAs_headerLine hheaders
  have hlines : ∀ line ∈ t.lines true, Text.ShowsAs line.toList (Text.uncolored line.toList) := by
    rw [lines_of_rows hrows, List.forall_mem_cons, List.forall_mem_map]
    exact ⟨hheader.uncolored, fun row hrow => (showsAs_rowLine (hcells row hrow)).uncolored⟩
  have hrender : Text.uncolored (t.render true).toList =
      (t.lines true).flatMap (fun line => Text.uncolored line.toList ++ ['\n']) := by
    rw [toList_render]
    refine (Text.ShowsAs.flatMap fun line hline => ?_).uncolored_eq
    refine .append (hlines line hline) (Text.showsAs_of_notMem (by decide))
  refine ⟨hrender, ?_, ?_⟩
  · rw [lines_of_rows hrows, lines_of_rows hrows]
    refine .cons ⟨[], by simp, by rw [hheader.uncolored_eq, List.append_nil]⟩ ?_
    rw [List.forall₂_map_left_iff, List.forall₂_map_right_iff, List.forall₂_same]
    exact fun row hrow => exists_uncolored_rowLine (hcells row hrow)
  · -- the headers agree, and no row is shorter in colors, so the whole texts agree row by row
    rw [hrender, toList_render, lines_of_rows hrows, lines_of_rows hrows, List.flatMap_cons,
      List.flatMap_cons, List.flatMap_map, List.flatMap_map, hheader.uncolored_eq,
      List.append_cancel_left_eq, flatMap_eq_iff]
    · refine forall₂_congr fun row hrow => ?_
      rw [List.append_cancel_right_eq, uncolored_rowLine_eq_iff (hcells row hrow)]
    · intro row hrow
      obtain ⟨blanks, -, hblanks⟩ := exists_uncolored_rowLine (t := t) (hcells row hrow)
      rw [hblanks]
      simp

/-- The secondary column is the last one and has a text in every row. -/
theorem uncolored_render_events :
    let t : Table := ⟨[{ name := "ID" }, { name := "EVENTS", muted := true }],
      [["c-1", "save"], ["c-20", "open"]]⟩
    (∀ column ∈ t.columns, '\x1b' ∉ column.name.toList) ∧
      (∀ row ∈ t.rows, ∀ text ∈ row, '\x1b' ∉ text.toList) ∧
      Text.uncolored (t.render true).toList = (t.render false).toList := by
  intro t
  have hheaders : ∀ column ∈ t.columns, '\x1b' ∉ column.name.toList := by decide
  have hcells : ∀ row ∈ t.rows, ∀ text ∈ row, '\x1b' ∉ text.toList := by decide
  exact ⟨hheaders, hcells, (uncolored_render t hheaders hcells).2.2.2 (by decide)⟩

/-- An empty text in a secondary column at the end of a row leaves the blanks before it. -/
theorem uncolored_render_noEvents :
    let t : Table := ⟨[{ name := "ID" }, { name := "TITLE", most := some 60 },
      { name := "EVENTS", muted := true }], [["c-1", "ls", ""]]⟩
    (∀ row ∈ t.rows, ∀ text ∈ row, '\x1b' ∉ text.toList) ∧
      Text.uncolored (t.render true).toList = "ID   TITLE  EVENTS\nc-1  ls     \n".toList ∧
      (t.render false).toList = "ID   TITLE  EVENTS\nc-1  ls\n".toList ∧
      Text.uncolored (t.render true).toList ≠ (t.render false).toList := by
  decide

end Table

end CommandTemplates
