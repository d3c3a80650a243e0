/-
The passes of an expansion refine one substitution.

However many passes have run, the content of a target is its template with each
placeholder of one scan replaced and all other text as it is.  No value, and no text
that a value forms with what is beside it, is read as a template.

* `substitute` — the substitution, by the spans of one scan;
* `Plan.join_segmentsAfter` — the parts of a target make up a substitution;
* `Plan.content_eq_substitute` — it is what an expansion shows after any number of
  passes, and after each of the two calls.
-/
import CommandTemplates.Proofs.Template.Stage
import CommandTemplates.Variable.Canned
import CommandTemplates.Variable.Registry
import Mathlib.Data.List.Forall2

namespace CommandTemplates

/-- The text of a template from byte `position` on, with the given placeholders replaced. -/
def substituteFrom (template : String) (replacement : Placeholder → String) (position : Nat) :
    List Placeholder → String
  | [] => Span.slice ⟨position, Utf8.byteLength template.toList⟩ template
  | p :: ps =>
    Span.slice ⟨position, p.span.start⟩ template ++ replacement p ++
      substituteFrom template replacement p.span.stop ps

/-- The template with each of its placeholders replaced. -/
def substitute (template : String) (replacement : Placeholder → String) : String :=
  substituteFrom template replacement 0 (Placeholder.scan template)

/-- The text of pieces in which each placeholder is replaced. -/
def joinPieces (replacement : Placeholder → String) (tail : List Char) :
    List (List Char × Placeholder) → String
  | [] => String.ofList tail
  | (before, p) :: pieces =>
    String.ofList before ++ replacement p ++ joinPieces replacement tail pieces

/-! ### Slices and pieces -/

theorem slice_append (before cs after : List Char) :
    Span.slice ⟨Utf8.byteLength before, Utf8.byteLength before + Utf8.byteLength cs⟩
      (String.ofList (before ++ (cs ++ after))) = String.ofList cs :=
  Span.slice_of_append String.toList_ofList

/-- The slices between the placeholders of a text are the plain texts of its pieces. -/
theorem substituteFrom_eq_joinPieces (template : String) (replacement : Placeholder → String)
    {position : Nat} {cs : List Char} {first : List Char}
    (htext : template.toList = first ++ cs) (hposition : position = Utf8.byteLength first) :
    substituteFrom template replacement position
        ((Placeholder.cutFrom position cs).1.map Prod.snd) =
      joinPieces replacement (Placeholder.cutFrom position cs).2
        (Placeholder.cutFrom position cs).1 := by
  -- along the placeholders; `first` is the text before byte `position`
  induction position, cs using Placeholder.word_induction generalizing first with
  | none position cs hno =>
    subst hposition
    have hslice := slice_append first cs []
    rw [List.append_nil, ← htext, String.ofList_toList] at hslice
    rw [Placeholder.cutFrom_of_noWordIn hno, List.map_nil, substituteFrom, joinPieces, htext,
      Utf8.byteLength_append, hslice]
  | word position before d rest hno ih =>
    have hslice := slice_append first before (d.written ++ rest)
    rw [← htext, String.ofList_toList, ← hposition] at hslice
    have hrest : template.toList = (first ++ (before ++ d.written)) ++ rest := by
      rw [htext, List.append_assoc, List.append_assoc]
    have hstop : position + Utf8.byteLength before + Utf8.byteLength d.written =
        Utf8.byteLength (first ++ (before ++ d.written)) := by
      rw [Utf8.byteLength_append, Utf8.byteLength_append, hposition]
      omega
    rw [Placeholder.cutFrom_of_word hno, List.map_cons, substituteFrom, joinPieces,
      ← ih hrest hstop]
    rw [show (d.placeholder (position + Utf8.byteLength before)).span.start =
      position + Utf8.byteLength before from rfl, hslice]
    rfl

theorem substitute_eq_joinPieces (template : String) (replacement : Placeholder → String) :
    substitute template replacement =
      joinPieces replacement (Placeholder.cut template).2 (Placeholder.cut template).1 := by
  have htext : template.toList = [] ++ template.toList := rfl
  exact substituteFrom_eq_joinPieces template replacement htext rfl

/-- Pieces with the same plain texts, and the same texts in place of their placeholders, make up the
same text. -/
theorem joinPieces_congr {f g : Placeholder → String} {tail : List Char}
    {pieces pieces' : List (List Char × Placeholder)}
    (h : List.Forall₂ (fun piece piece' => piece'.1 = piece.1 ∧ g piece'.2 = f piece.2) pieces
      pieces') : joinPieces g tail pieces' = joinPieces f tail pieces := by
  induction h with
  | nil => rfl
  | cons hpiece _ ih => rw [joinPieces, joinPieces, hpiece.1, hpiece.2, ih]

/-- A substitution depends on what stands for the placeholders of the template alone. -/
theorem substitute_congr {template : String} {f g : Placeholder → String}
    (h : ∀ p ∈ Placeholder.scan template, f p = g p) :
    substitute template f = substitute template g := by
  rw [substitute_eq_joinPieces, substitute_eq_joinPieces]
  refine joinPieces_congr (List.forall₂_same.2 fun piece hpiece => ⟨rfl, ?_⟩)
  exact h piece.2 (List.mem_map_of_mem hpiece)

namespace Plan

variable {plan : Plan} {k : Nat} {targets : List (String × String)} {x : Expansion}

/-! ### The parts of a target -/

theorem join_pendingText (origin : Nat) (cs : List Char) (segments : List Segment) :
    String.join ((Pass.pendingText origin cs ++ segments).map (·.text)) =
      String.ofList cs ++ String.join (segments.map (·.text)) := by
  unfold Pass.pendingText
  split
  · next hempty => simp [hempty]
  · simp [Segment.text]

theorem join_segments (settled? : Placeholder → Option String) (tail held : List Char)
    (start : Nat) (pieces : List (List Char × Placeholder)) :
    String.join ((segments settled? tail held start pieces).map (·.text)) =
      String.ofList held ++ joinPieces (fun p => (settled? p).getD p.source) tail pieces := by
  induction pieces generalizing held start with
  | nil =>
    have hpending := join_pendingText start (held ++ tail) []
    rw [List.append_nil, String.ofList_append] at hpending
    rw [segments, hpending, joinPieces, List.map_nil, String.join_nil, String.append_empty]
  | cons piece pieces ih =>
    obtain ⟨before, p⟩ := piece
    rw [segments, joinPieces]
    cases settled? p with
    | none => simp [ih, String.append_assoc]
    | some text =>
      rw [join_pendingText, List.map_cons, String.join_cons, ih]
      simp [Segment.text, String.append_assoc]

/-- The parts of a template after some passes make up the template with what is shown for each
placeholder. -/
theorem join_segmentsAfter (plan : Plan) (template : String) (k : Nat) :
    String.join ((plan.segmentsAfter template k).map (·.text)) =
      substitute template (plan.shown k) := by
  have hpieces := join_segments (plan.settled? k) (Placeholder.cut template).2 [] 0
    (Placeholder.cut template).1
  rw [substitute_eq_joinPieces]
  rw [String.ofList_nil, String.empty_append] at hpieces
  cases k with
  | succ k => exact hpieces
  | zero =>
    have hwhole := join_pendingText 0 template.toList []
    rw [List.append_nil, List.map_nil, String.join_nil, String.append_empty,
      String.ofList_toList] at hwhole
    rw [segments_of_pending fun piece _ => plan.settled?_zero piece.2, List.nil_append,
      Placeholder.cut, Placeholder.piecesText_cutFrom, hwhole] at hpieces
    have htemplate : String.join ((plan.segmentsAfter template 0).map (·.text)) = template := by
      simp [segmentsAfter, Segment.text]
    rw [htemplate]
    exact hpieces

/-- Whether an expansion shows each target without a message as its template with the
placeholders replaced, as they are after `k` passes. -/
def ShowsContent (plan : Plan) (targets : List (String × String)) (k : Nat) (x : Expansion) :
    Prop :=
  ∀ key template, (Dictionary.ofList targets).get? key = some template →
    ∃ r, x.result? key = some r ∧ r.template = template ∧
      (r.errors = [] → ∃ replacement : Placeholder → String,
        (∀ p ∈ Placeholder.scan template, ∀ text,
          plan.Replaced k p text ↔ text = replacement p) ∧
        r.content = some (substitute template replacement))

theorem Stage.showsContent (h : plan.Stage targets k x) : plan.ShowsContent targets k x := by
  intro key template hkey
  obtain ⟨t, ht, rfl, hdescribed⟩ := h.exists_target hkey
  refine ⟨t.result, by rw [Expansion.result?, ht]; rfl, rfl, ?_⟩
  intro hnone
  replace hnone : t.errors = [] := hnone
  have hcontent : t.result.content = some t.content := by
    simp [Target.result, Target.isFailed, hnone]
  refine ⟨plan.shown k, ?_, ?_⟩
  · intro p hp text
    exact replaced_iff (fun i hi => hdescribed.failure?_eq_none hnone hp hi) text
  · rw [hcontent, Target.content, hdescribed.segments hnone, join_segmentsAfter]

/-- After any number of passes, and after each of the two calls, the content of a target without a
message is its template with the placeholders of one scan replaced. -/
theorem content_eq_substitute (plan : Plan) (targets : List (String × String))
    (hsets : plan.sets ≠ []) :
    (∀ k ≤ plan.sets.length,
        plan.ShowsContent targets k ((plan.expansion targets).afterPasses plan.context k)) ∧
      ∃ ok x, (plan.expansion targets).start plan.first = .ok (ok, x) ∧
        plan.ShowsContent targets 1 x ∧
        ∃ ok' y, x.finish plan.later = .ok (ok', y) ∧
          plan.ShowsContent targets plan.sets.length y := by
  refine forall_stages ?_ hsets
  intro k x hstage
  exact hstage.showsContent

/-- Two sets with a name in common; the value of the one variable looks like a placeholder of the
other set, and a custom variable gets its value only after the first pass. -/
def commonName : Plan where
  sets := [.ofList [.canned "a" (some "\x7b\x7bb\x7d\x7d"), .canned "c" none],
    .ofList [.canned "b" (some "B"), .canned "a" (some "A"),
      CustomVariable.toVariable ⟨"id", "o", ""⟩]]
  fallbacks := .ofList [("c", .value "D")]
  first := { environment := { root := ⟨"/"⟩, now := ⟨0, 0, 0⟩ } }
  later :=
    { environment := { root := ⟨"/"⟩, now := ⟨0, 0, 0⟩ }
      values := .ofList [("id", "V")] }

theorem content_eq_substitute_commonName :
    let targets := [("t", "\x7b\x7ba\x7d\x7d\x7b\x7b!a\x7d\x7d-\x7b\x7bc\x7d\x7d" ++
      "\x7b\x7b_o\x7d\x7d\x7b\x7bb\x7d\x7d")]
    commonName.sets ≠ [] ∧
      (∀ k ≤ commonName.sets.length, commonName.ShowsContent targets k
        ((commonName.expansion targets).afterPasses commonName.context k)) ∧
      (∃ ok x, (commonName.expansion targets).start commonName.first = .ok (ok, x) ∧
        commonName.ShowsContent targets 1 x ∧
        ∃ ok' y, x.finish commonName.later = .ok (ok', y) ∧
          commonName.ShowsContent targets commonName.sets.length y) ∧
      (((commonName.expansion targets).afterPasses commonName.context 2).result? "t").bind
        (·.content) = some "\x7b\x7bb\x7d\x7d\x7b\x7ba\x7d\x7d-DVB" := by
  intro targets
  have hsets : commonName.sets ≠ [] := by simp [commonName]
  obtain ⟨hpasses, hcalls⟩ := content_eq_substitute commonName targets hsets
  refine ⟨hsets, hpasses, hcalls, ?_⟩
  decide +kernel

end Plan

end CommandTemplates
