/-
Parts of a text that was cut into placeholders and plain text.

* `cutFrom_add` — the cut of a text further to the right has its spans moved;
* `piecesText_cutFrom` — the pieces of a cut make up the text;
* `cutFrom_before`, `exists_cutFrom_after` — the parts before and behind a placeholder
  have the placeholders that they have in the whole text, and no others.
-/
import CommandTemplates.Proofs.Placeholder.Leftmost

namespace CommandTemplates.Placeholder

/-- The same placeholder in a text with `n` more bytes before it. -/
def shift (p : Placeholder) (n : Nat) : Placeholder := { p with span := p.span.shift n }

theorem Derivation.placeholder_add (d : Derivation) (position n : Nat) :
    d.placeholder (position + n) = (d.placeholder position).shift n := by
  simp only [placeholder, shift, Span.shift, Placeholder.mk.injEq, Span.mk.injEq, true_and,
    and_true]
  omega

theorem cutFrom_add (position n : Nat) (cs : List Char) :
    cutFrom (position + n) cs =
      ((cutFrom position cs).1.map fun piece => (piece.1, piece.2.shift n),
        (cutFrom position cs).2) := by
  induction position, cs using word_induction with
  | none position cs hno => rw [cutFrom_of_noWordIn hno, cutFrom_of_noWordIn hno, List.map_nil]
  | word position before d rest hno ih =>
    have hstart : position + n + Utf8.byteLength before =
        position + Utf8.byteLength before + n := by omega
    have hstop : position + Utf8.byteLength before + n + Utf8.byteLength d.written =
        position + Utf8.byteLength before + Utf8.byteLength d.written + n := by omega
    rw [cutFrom_of_word hno, cutFrom_of_word hno, hstart, hstop, ih, d.placeholder_add]
    rfl

/-- The placeholders of a text further to the right. -/
theorem map_cutFrom_eq_scan (n : Nat) (text : String) :
    (cutFrom n text.toList).1.map Prod.snd = (scan text).map (·.shift n) := by
  have hadd := cutFrom_add 0 n text.toList
  rw [Nat.zero_add] at hadd
  rw [hadd, scan, cut, List.map_map, List.map_map]
  rfl

/-! ### Cutting a part -/

/-- The text of placeholders with the plain text before each. -/
def piecesText (pieces : List (List Char × Placeholder)) : List Char :=
  pieces.flatMap fun piece => piece.1 ++ piece.2.source.toList

@[simp] theorem piecesText_nil : piecesText [] = [] := rfl

@[simp] theorem piecesText_cons (piece : List Char × Placeholder)
    (pieces : List (List Char × Placeholder)) :
    piecesText (piece :: pieces) = piece.1 ++ (piece.2.source.toList ++ piecesText pieces) := by
  simp [piecesText]

@[simp] theorem piecesText_append (pieces more : List (List Char × Placeholder)) :
    piecesText (pieces ++ more) = piecesText pieces ++ piecesText more := by
  simp [piecesText]

theorem Derivation.toList_source (d : Derivation) (position : Nat) :
    (d.placeholder position).source.toList = d.written := by
  simp [placeholder]

theorem piecesText_cutFrom (position : Nat) (cs : List Char) :
    piecesText (cutFrom position cs).1 ++ (cutFrom position cs).2 = cs := by
  induction position, cs using word_induction with
  | none position cs hno =>
    rw [cutFrom_of_noWordIn hno]
    rfl
  | word position before d rest hno ih =>
    rw [cutFrom_of_word hno, piecesText_cons, d.toList_source, List.append_assoc,
      List.append_assoc, ih]

/-- The part of a text before one of its placeholders has the placeholders that are there in the
whole text. -/
theorem cutFrom_before {position : Nat} {cs before tail : List Char} {p : Placeholder}
    {run rest : List (List Char × Placeholder)}
    (h : cutFrom position cs = (run ++ (before, p) :: rest, tail)) :
    cutFrom position (piecesText run ++ before) = (run, before) := by
  induction position, cs using word_induction generalizing run with
  | none position cs hno =>
    rw [cutFrom_of_noWordIn hno] at h
    simp at h
  | word position first d others hno ih =>
    rw [cutFrom_of_word hno] at h
    cases run with
    | nil =>
      simp only [List.nil_append, Prod.mk.injEq, List.cons.injEq] at h
      obtain ⟨⟨⟨rfl, -⟩, -⟩, -⟩ := h
      rw [piecesText_nil, List.nil_append]
      exact cutFrom_of_noWordIn (NoWordIn.of_append hno)
    | cons piece run =>
      simp only [List.cons_append, Prod.mk.injEq, List.cons.injEq] at h
      obtain ⟨⟨rfl, hrun⟩, htail⟩ := h
      have hothers := ih (Prod.ext hrun htail)
      -- the rest of the part is what the whole text goes on with, so nothing new can
      -- begin before the word
      have hsplit : others = (piecesText run ++ before) ++
          (p.source.toList ++ (piecesText rest ++ tail)) := by
        have htext := piecesText_cutFrom
          (position + Utf8.byteLength first + Utf8.byteLength d.written) others
        rw [hrun, htail] at htext
        simpa using htext.symm
      have hpart : NoWordIn first (d.written ++ (piecesText run ++ before)) := by
        rw [hsplit, ← List.append_assoc] at hno
        exact hno.of_append
      rw [piecesText_cons, d.toList_source, List.append_assoc, List.append_assoc,
        cutFrom_of_word hpart, hothers]

/-- Behind a placeholder the cut goes on as the cut of what is left. -/
theorem exists_cutFrom_after {position : Nat} {cs before tail : List Char} {p : Placeholder}
    {run rest : List (List Char × Placeholder)}
    (h : cutFrom position cs = (run ++ (before, p) :: rest, tail)) :
    ∃ others, cutFrom p.span.stop others = (rest, tail) := by
  induction position, cs using word_induction generalizing run with
  | none position cs hno =>
    rw [cutFrom_of_noWordIn hno] at h
    simp at h
  | word position first d others hno ih =>
    rw [cutFrom_of_word hno] at h
    cases run with
    | nil =>
      simp only [List.nil_append, Prod.mk.injEq, List.cons.injEq] at h
      obtain ⟨⟨⟨-, rfl⟩, hrest⟩, htail⟩ := h
      exact ⟨others, Prod.ext hrest htail⟩
    | cons piece run =>
      simp only [List.cons_append, Prod.mk.injEq, List.cons.injEq] at h
      obtain ⟨⟨-, hrun⟩, htail⟩ := h
      exact ih (Prod.ext hrun htail)

end CommandTemplates.Placeholder
