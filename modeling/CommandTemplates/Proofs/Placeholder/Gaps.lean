/-
Cutting placeholders out of a text.

A text is cut at some of its placeholders, which leaves the gaps before, between and
behind them.  The end of a gap may cut a candidate short, and of stray braces at a cut
some stand before it and some behind.  No word is made or broken by this: a word that
begins in a gap begins there in the whole text too, and a placeholder of a gap ends
before the next one that is cut out.  So each gap has by itself the placeholders that it
has in the text.

* `gaps` — the gaps, by the spans of the placeholders that are cut out;
* `span_of_cutFrom` — where a placeholder stands, by the text before it;
* `exists_first_chosen` — the first of the placeholders that are cut out parts the text
  and its scan in two;
* `scan_gaps` — the gaps have the other placeholders, in their order.
-/
import CommandTemplates.Proofs.Placeholder.Cut

namespace CommandTemplates.Placeholder

/-- The placeholders of a text that starts at byte `position`. -/
def scanFrom (position : Nat) (cs : List Char) : List Placeholder :=
  (cutFrom position cs).1.map Prod.snd

/-- A part of a text, with the byte at which it begins there. -/
structure Gap where
  position : Nat
  text : String
  deriving DecidableEq, Repr

/-- The placeholders of a part scanned by itself, with the spans that they have in the text. -/
def Gap.scan (gap : Gap) : List Placeholder :=
  (Placeholder.scan gap.text).map (·.shift gap.position)

/-- What some placeholders leave of a text from byte `position` on. -/
def gapsFrom (text : String) (position : Nat) : List Placeholder → List Gap
  | [] => [⟨position, Span.slice ⟨position, Utf8.byteLength text.toList⟩ text⟩]
  | p :: ps =>
    ⟨position, Span.slice ⟨position, p.span.start⟩ text⟩ :: gapsFrom text p.span.stop ps

/-- The parts of a text before, between and behind some of its placeholders. -/
def gaps (text : String) (ps : List Placeholder) : List Gap := gapsFrom text 0 ps

/-- Parts of a text with placeholders between them. -/
def rejoin (gaps : List Gap) (ps : List Placeholder) : String :=
  String.join (List.zipWith (fun gap source => gap.text ++ source) gaps
    (ps.map (·.source) ++ [""]))

theorem rejoin_singleton (gap : Gap) : rejoin [gap] [] = gap.text := by
  simp [rejoin]

theorem rejoin_cons (gap : Gap) (gaps : List Gap) (p : Placeholder) (ps : List Placeholder) :
    rejoin (gap :: gaps) (p :: ps) = gap.text ++ p.source ++ rejoin gaps ps := by
  simp [rejoin]

/-! ### The gaps of a text -/

theorem Gap.scan_ofList (position : Nat) (cs : List Char) :
    Gap.scan ⟨position, String.ofList cs⟩ = scanFrom position cs := by
  have hcut := map_cutFrom_eq_scan position (String.ofList cs)
  rw [String.toList_ofList] at hcut
  exact hcut.symm

theorem gapsFrom_nil {text : String} {first cs : List Char} (htext : text.toList = first ++ cs) :
    gapsFrom text (Utf8.byteLength first) [] = [⟨Utf8.byteLength first, String.ofList cs⟩] := by
  have hend : text.toList = first ++ (cs ++ []) := by rw [htext, List.append_nil]
  rw [gapsFrom, htext, Utf8.byteLength_append, Span.slice_of_append hend]

theorem gapsFrom_cons {text : String} {first gap written others : List Char} {p : Placeholder}
    (htext : text.toList = (first ++ (gap ++ written)) ++ others)
    (hspan : p.span = ⟨Utf8.byteLength (first ++ gap),
      Utf8.byteLength (first ++ (gap ++ written))⟩) (ps : List Placeholder) :
    gapsFrom text (Utf8.byteLength first) (p :: ps) =
      ⟨Utf8.byteLength first, String.ofList gap⟩ ::
        gapsFrom text (Utf8.byteLength (first ++ (gap ++ written))) ps := by
  have hgap : text.toList = first ++ (gap ++ (written ++ others)) := by
    rw [htext, List.append_assoc, List.append_assoc]
  have hslice := Span.slice_of_append hgap
  rw [← Utf8.byteLength_append] at hslice
  rw [gapsFrom, hspan, hslice]

/-! ### The first placeholder that is cut out -/

theorem span_of_cutFrom {position : Nat} {cs before tail : List Char} {p : Placeholder}
    {run rest : List (List Char × Placeholder)}
    (h : cutFrom position cs = (run ++ (before, p) :: rest, tail)) :
    p.span = ⟨position + Utf8.byteLength (piecesText run ++ before),
      position + Utf8.byteLength (piecesText run ++ (before ++ p.source.toList))⟩ := by
  induction position, cs using word_induction generalizing run with
  | none position cs hno =>
    rw [cutFrom_of_noWordIn hno] at h
    simp at h
  | word position first d others hno ih =>
    rw [cutFrom_of_word hno] at h
    cases run with
    | nil =>
      simp only [List.nil_append, Prod.mk.injEq, List.cons.injEq] at h
      obtain ⟨⟨⟨rfl, rfl⟩, -⟩, -⟩ := h
      rw [piecesText_nil, List.nil_append, List.nil_append, d.toList_source,
        Utf8.byteLength_append, ← Nat.add_assoc]
      rfl
    | cons piece run =>
      simp only [List.cons_append, Prod.mk.injEq, List.cons.injEq] at h
      obtain ⟨⟨rfl, hrun⟩, htail⟩ := h
      have hspan := ih (Prod.ext hrun htail)
      rw [hspan, piecesText_cons, d.toList_source]
      simp only [Utf8.byteLength_append, Span.mk.injEq]
      omega

/-- The first placeholder that a test chooses parts the text and its scan: none is chosen in the
gap before it, and the scan goes on behind it. -/
theorem exists_first_chosen {chosen : Placeholder → Bool} {first cs : List Char}
    {p : Placeholder} {ps : List Placeholder}
    (h : (scanFrom (Utf8.byteLength first) cs).filter chosen = p :: ps) :
    ∃ gap others, first ++ cs = (first ++ (gap ++ p.source.toList)) ++ others ∧
      p.span = ⟨Utf8.byteLength (first ++ gap),
        Utf8.byteLength (first ++ (gap ++ p.source.toList))⟩ ∧
      scanFrom (Utf8.byteLength first) cs = scanFrom (Utf8.byteLength first) gap ++
        p :: scanFrom (Utf8.byteLength (first ++ (gap ++ p.source.toList))) others ∧
      (∀ q ∈ scanFrom (Utf8.byteLength first) gap, chosen q = false) ∧
      chosen p = true ∧
      (scanFrom (Utf8.byteLength (first ++ (gap ++ p.source.toList))) others).filter chosen =
        ps := by
  -- the scan is split at the first chosen placeholder, and the pieces of the cut with it
  obtain ⟨qs, rs, hscan, hqs, hp, hrs⟩ := List.filter_eq_cons_iff.1 h
  obtain ⟨run, pieces, hpieces, rfl, hbehind⟩ := List.map_eq_append_iff.1 hscan
  obtain ⟨⟨before, p⟩, rest, rfl, rfl, rfl⟩ := List.map_eq_cons_iff.1 hbehind
  have hcut : cutFrom (Utf8.byteLength first) cs =
      (run ++ (before, p) :: rest, (cutFrom (Utf8.byteLength first) cs).2) :=
    Prod.ext hpieces rfl
  have hspan : p.span = ⟨Utf8.byteLength (first ++ (piecesText run ++ before)),
      Utf8.byteLength (first ++ ((piecesText run ++ before) ++ p.source.toList))⟩ := by
    simpa using span_of_cutFrom hcut
  -- the gap is the text before the placeholder, and what is behind it is scanned from there
  have hgap := cutFrom_before hcut
  obtain ⟨others, hothers⟩ := exists_cutFrom_after hcut
  have htext : cs = ((piecesText run ++ before) ++ p.source.toList) ++ others := by
    have hwhole := piecesText_cutFrom (Utf8.byteLength first) cs
    have hrest := piecesText_cutFrom p.span.stop others
    rw [hpieces] at hwhole
    rw [hothers] at hrest
    rw [← hwhole, ← hrest]
    simp
  rw [hspan] at hothers
  refine ⟨piecesText run ++ before, others, ?_, hspan, ?_, ?_, hp, ?_⟩
  · rw [List.append_assoc first, ← htext]
  · rw [hscan, scanFrom, scanFrom, hgap, hothers]
  · intro q hq
    rw [scanFrom, hgap] at hq
    simpa using hqs q hq
  · rw [scanFrom, hothers]
    exact hrs

/-! ### Scanning the gaps -/

variable {text : String} {chosen : Placeholder → Bool}

theorem flatMap_scan_gapsFrom {first cs : List Char} {ps : List Placeholder}
    (htext : text.toList = first ++ cs)
    (hps : (scanFrom (Utf8.byteLength first) cs).filter chosen = ps) :
    (gapsFrom text (Utf8.byteLength first) ps).flatMap Gap.scan =
      (scanFrom (Utf8.byteLength first) cs).filter fun p => !chosen p := by
  -- along the chosen placeholders; `first` is the text before the gap that comes next
  induction ps generalizing first cs with
  | nil =>
    have hothers : ∀ q ∈ scanFrom (Utf8.byteLength first) cs, (!chosen q) = true := by
      simpa using List.filter_eq_nil_iff.1 hps
    rw [gapsFrom_nil htext, List.flatMap_singleton, Gap.scan_ofList,
      List.filter_eq_self.2 hothers]
  | cons p ps ih =>
    obtain ⟨gap, others, hsplit, hspan, hscan, hgap, hp, hbehind⟩ := exists_first_chosen hps
    have hkept : ∀ q ∈ scanFrom (Utf8.byteLength first) gap, (!chosen q) = true := by
      intro q hq
      rw [hgap q hq]
      rfl
    have htext' := htext.trans hsplit
    rw [gapsFrom_cons htext' hspan, List.flatMap_cons, Gap.scan_ofList, ih htext' hbehind,
      hscan, List.filter_append, List.filter_eq_self.2 hkept,
      List.filter_cons_of_neg (by simp [hp])]

theorem rejoin_gapsFrom {first cs : List Char} {ps : List Placeholder}
    (htext : text.toList = first ++ cs)
    (hps : (scanFrom (Utf8.byteLength first) cs).filter chosen = ps) :
    rejoin (gapsFrom text (Utf8.byteLength first) ps) ps = String.ofList cs := by
  induction ps generalizing first cs with
  | nil => rw [gapsFrom_nil htext, rejoin_singleton]
  | cons p ps ih =>
    obtain ⟨gap, others, hsplit, hspan, -, -, -, hbehind⟩ := exists_first_chosen hps
    have htext' := htext.trans hsplit
    have hcs : cs = (gap ++ p.source.toList) ++ others := by
      rw [List.append_assoc first] at hsplit
      exact List.append_cancel_left hsplit
    rw [gapsFrom_cons htext' hspan, rejoin_cons, ih htext' hbehind, hcs, String.ofList_append,
      String.ofList_append, String.ofList_toList]

/-- Scanning commutes with cutting placeholders out of a text.  Whichever of them a test chooses,
the gaps that these leave, each scanned by itself, have exactly the others, in their order and with
their spans in the text; the gaps with the chosen placeholders between them are the text. -/
theorem scan_gaps (text : String) (chosen : Placeholder → Bool) :
    (gaps text ((scan text).filter chosen)).flatMap Gap.scan =
        (scan text).filter (fun p => !chosen p) ∧
      rejoin (gaps text ((scan text).filter chosen)) ((scan text).filter chosen) = text := by
  have htext : text.toList = [] ++ text.toList := rfl
  have hjoin := @rejoin_gapsFrom text chosen [] text.toList _ htext rfl
  rw [String.ofList_toList] at hjoin
  exact ⟨flatMap_scan_gapsFrom htext rfl, hjoin⟩

end CommandTemplates.Placeholder
