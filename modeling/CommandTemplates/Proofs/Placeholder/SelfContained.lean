/-
A placeholder by itself.

Nothing behind a word of the grammar decides how it is read, so the source of a
placeholder, cut out of its text, is read as the same placeholder; so is the source
without the escape mark, but for the mark.

* `scan_written` — a word alone is one placeholder;
* `unescaped_placeholder` — the text without the escape mark is a word with the same name
  and arguments;
* `Scanner.next_advance` — a scan in progress gives one placeholder a call, and behind the
  last no more;
* `scan_self_contained` — the spans, the sources and the end of a scan.
-/
import CommandTemplates.Proofs.Placeholder.Cut

namespace CommandTemplates

namespace Placeholder

/-! ### A word alone -/

theorem scan_written (d : Derivation) : scan (String.ofList d.written) = [d.placeholder 0] := by
  have hcut : cutFrom 0 d.written = ([([], d.placeholder 0)], []) := by
    have hword := @cutFrom_of_word 0 [] [] d (noWordIn_nil _)
    rw [List.nil_append, List.append_nil] at hword
    rw [hword, cutFrom_of_noWordIn (noWordIn_nil [])]
    rfl
  rw [scan, cut, String.toList_ofList, hcut]
  rfl

/-- The same word without the escape mark. -/
def Derivation.unmarked (d : Derivation) : Derivation := { d with escaped := false }

theorem Derivation.written_eq (d : Derivation) :
    d.written = '{' :: '{' :: ((if d.escaped then ['!'] else []) ++ d.named) := by
  simp [written, opening, named]

theorem unescaped_placeholder (d : Derivation) (position : Nat) :
    (d.placeholder position).unescaped = String.ofList d.unmarked.written := by
  have hsource : (d.placeholder position).source.toList = d.written := d.toList_source position
  have hunmarked : d.unmarked.written = '{' :: '{' :: d.named := d.unmarked.written_eq
  rw [d.written_eq] at hsource
  -- with the mark, it is dropped from the source; without it, the source is the word itself
  cases hescaped : d.escaped with
  | true =>
    have hflag : (d.placeholder position).escaped = true := hescaped
    rw [hescaped] at hsource
    simp only [unescaped, hflag, hsource, if_true, List.cons_append, List.nil_append, hunmarked]
  | false =>
    have hflag : (d.placeholder position).escaped = false := hescaped
    rw [hescaped] at hsource
    simp only [Bool.false_eq_true, if_false, List.nil_append] at hsource
    rw [hunmarked, ← hsource, String.ofList_toList]
    simp only [unescaped, hflag]

end Placeholder

/-! ### A scan in progress -/

namespace Scanner

open Placeholder

theorem next_of_noWordIn {s : Scanner} (h : NoWordIn s.rest []) : s.next = (none, s.finish) := by
  simp only [next, next?_eq_none_iff.2 h, finish]

theorem next_of_word {position : Nat} {before rest : List Char} {d : Derivation}
    (h : NoWordIn before (d.written ++ rest)) :
    (⟨position, before ++ (d.written ++ rest)⟩ : Scanner).next =
      (some (d.placeholder (position + Utf8.byteLength before)),
        ⟨position + Utf8.byteLength before + Utf8.byteLength d.written, rest⟩) := by
  have hnext : next? position (before ++ (d.written ++ rest)) =
      some (before, d.placeholder (position + Utf8.byteLength before), rest) :=
    next?_eq_some_iff.2 ⟨d, rfl, rfl, h⟩
  simp only [next, hnext]
  rfl

theorem toList_start (text : String) : (start text).toList = scan text := rfl

/-- One call gives the first of the placeholders to come and leaves the others. -/
theorem next_toList (s : Scanner) :
    s.next.1 = s.toList.head? ∧ s.next.2.toList = s.toList.tail := by
  obtain ⟨position, cs⟩ := s
  simp only [toList]
  induction position, cs using word_induction with
  | none position cs hno =>
    rw [next_of_noWordIn hno, cutFrom_of_noWordIn hno]
    refine ⟨rfl, ?_⟩
    rw [finish, cutFrom_of_noWordIn (noWordIn_nil [])]
    rfl
  | word position before d rest hno _ =>
    rw [next_of_word hno, cutFrom_of_word hno]
    exact ⟨rfl, rfl⟩

theorem toList_advance (s : Scanner) (n : Nat) : (s.advance n).toList = s.toList.drop n := by
  induction n generalizing s with
  | zero => rfl
  | succ n ih => rw [advance, ih, (next_toList s).2, List.drop_tail, Nat.add_comm]

/-- The call after `n` others gives the placeholder at index `n`, if there is one. -/
theorem next_advance (s : Scanner) (n : Nat) : (s.advance n).next.1 = s.toList[n]? := by
  rw [(next_toList _).1, toList_advance, List.head?_drop]

/-- A scan that has given no placeholder gives none again, however often it is called and
wherever in the rest of the text it goes on. -/
theorem exhausted {s : Scanner} (h : s.next.1 = none) :
    (∀ n, (s.next.2.advance n).next.1 = none) ∧
      ∀ position t, t <:+ s.rest → (⟨position, t⟩ : Scanner).next.1 = none := by
  have hempty : s.toList = [] := by
    rw [(next_toList s).1] at h
    exact List.head?_eq_none_iff.1 h
  have hno : NoWordIn s.rest [] := by
    refine (@next?_eq_none_iff s.position s.rest).1 ?_
    cases hnext : next? s.position s.rest with
    | none => rfl
    | some found => simp [next, hnext] at h
  refine ⟨fun n => ?_, fun position t ht => ?_⟩
  · rw [next_advance, (next_toList s).2, hempty]
    rfl
  · have hnot : NoWordIn t [] := fun u hu => hno u (hu.trans ht)
    rw [next_of_noWordIn hnot]

end Scanner

namespace Placeholder

/-- Placeholders are self-contained.  Each stands in the text where its span says, behind those
before it; its source alone is scanned as the same placeholder, and its source without the
escape mark as that placeholder unescaped.  A scan in progress gives them one after the other,
from wherever it is taken up again, and once it has given none it gives none any more. -/
theorem scan_self_contained (text : String) :
    (∀ p ∈ scan text,
      (∃ before after, text.toList = before ++ (p.source.toList ++ after) ∧
        p.span = ⟨Utf8.byteLength before,
          Utf8.byteLength before + Utf8.byteLength p.source.toList⟩) ∧
      p.span.slice text = p.source ∧
      scan p.source = [{ p with span := ⟨0, Utf8.byteLength p.source.toList⟩ }] ∧
      scan p.unescaped =
        [{ p with
            escaped := false
            span := ⟨0, Utf8.byteLength p.unescaped.toList⟩
            source := p.unescaped }] ∧
      ∃ inside, p.source.toList = '{' :: '{' :: ((if p.escaped then ['!'] else []) ++ inside) ∧
        p.unescaped.toList = '{' :: '{' :: inside) ∧
      ((scan text).Pairwise fun p q => p.span.stop ≤ q.span.start) ∧
      (∀ k n, (((Scanner.start text).advance k).advance n).next.1 = (scan text)[k + n]?) ∧
      ∀ s : Scanner, s.next.1 = none →
        (∀ n, (s.next.2.advance n).next.1 = none) ∧
          ∀ position t, t <:+ s.rest → (⟨position, t⟩ : Scanner).next.1 = none := by
  have hwords : LeftmostWords 0 text.toList (scan text) := leftmostWords_iff.2 rfl
  refine ⟨?_, hwords.pairwise, ?_, fun s => Scanner.exhausted⟩
  · intro p hp
    -- what is said of the source and of its unescaped form is said of two words of the grammar
    obtain ⟨before, d, rest, htext, rfl⟩ := hwords.exists_derivation hp
    rw [Nat.zero_add]
    have hsource : (d.placeholder (Utf8.byteLength before)).source = String.ofList d.written := rfl
    have hwritten : (String.ofList d.written).toList = d.written := String.toList_ofList
    have hunescaped := unescaped_placeholder d (Utf8.byteLength before)
    refine ⟨⟨before, rest, ?_, ?_⟩, ?_, ?_, ?_, d.named, ?_, ?_⟩
    · rw [hsource, hwritten, htext]
    · rw [hsource, hwritten]
      rfl
    · have hslice := Utf8.slice?_append before d.written rest
      rw [← htext] at hslice
      rw [Span.slice]
      exact congrArg (fun t => String.ofList (t.getD [])) hslice
    · rw [hsource, scan_written, hwritten]
      simp [Derivation.placeholder]
    · rw [hunescaped, scan_written, String.toList_ofList]
      simp [Derivation.placeholder, Derivation.unmarked]
    · rw [hsource, hwritten, d.written_eq]
      rfl
    · rw [hunescaped, String.toList_ofList]
      exact d.unmarked.written_eq
  · intro k n
    rw [Scanner.next_advance, Scanner.toList_advance, Scanner.toList_start, List.getElem?_drop]

end Placeholder

end CommandTemplates
