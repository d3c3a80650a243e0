/-
The scan of a text, as the leftmost words of the grammar that do not overlap.

* `next?_eq_some_iff`, `next?_eq_none_iff` — the next placeholder is the word that
  begins furthest to the left;
* `leftmostWords_iff` — the placeholders of a text are its leftmost words, one after
  the other;
* `scanEachFrom_eq_cutFrom` — giving the scan up at arguments without an end loses
  nothing.
-/
import CommandTemplates.Proofs.Placeholder.Unambiguous

namespace CommandTemplates.Placeholder

/-- Whether no word of the grammar begins in the first of two texts that follow each other. -/
def NoWordIn (cs after : List Char) : Prop := ∀ t, t <:+ cs → t ≠ [] → ¬ BeginsWord (t ++ after)

/-- The words of the grammar in a text that starts at byte `position`: each begins as far to the
left as one can behind the word before it. -/
inductive LeftmostWords : Nat → List Char → List Placeholder → Prop
  | none {position : Nat} {cs : List Char} : NoWordIn cs [] → LeftmostWords position cs []
  | word {position : Nat} {before rest : List Char} {d : Derivation} {ps : List Placeholder} :
    NoWordIn before (d.written ++ rest) →
    LeftmostWords (position + Utf8.byteLength before + Utf8.byteLength d.written) rest ps →
    LeftmostWords position (before ++ (d.written ++ rest))
      (d.placeholder (position + Utf8.byteLength before) :: ps)

/-! ### The next placeholder -/

theorem Derivation.written_ne_nil (d : Derivation) : d.written ≠ [] := by
  simp [written, opening]

theorem not_beginsWord_nil : ¬ BeginsWord [] := by
  rintro ⟨d, rest, h⟩
  simp [d.written_ne_nil] at h

theorem beginsWord_iff_read (position : Nat) {cs : List Char} :
    BeginsWord cs ↔ ∃ p rest, read position cs = .found p rest := by
  constructor
  · rintro ⟨d, rest, rfl⟩
    exact ⟨d.placeholder position, rest, read_written position d rest⟩
  · rintro ⟨p, rest, h⟩
    obtain ⟨d, hcs, -⟩ := read_eq_found_iff.1 h
    exact ⟨d, rest, hcs⟩

theorem noWordIn_nil (after : List Char) : NoWordIn [] after := by
  intro t ht hne
  exact absurd (List.suffix_nil.1 ht) hne

theorem NoWordIn.cons {c : Char} {cs after : List Char} (hc : ¬ BeginsWord (c :: (cs ++ after)))
    (h : NoWordIn cs after) : NoWordIn (c :: cs) after := by
  intro t ht hne
  rcases List.suffix_cons_iff.1 ht with rfl | ht
  · exact hc
  · exact h t ht hne

/-- A text without a word keeps none when less follows it. -/
theorem NoWordIn.of_append {cs after more : List Char} (h : NoWordIn cs (after ++ more)) :
    NoWordIn cs after := by
  rintro t ht hne ⟨d, rest, heq⟩
  refine h t ht hne ⟨d, rest ++ more, ?_⟩
  rw [← List.append_assoc, heq, List.append_assoc]

theorem noWordIn_of_next?_eq_none {position : Nat} {cs : List Char}
    (h : next? position cs = none) : NoWordIn cs [] := by
  induction cs generalizing position with
  | nil => exact noWordIn_nil []
  | cons c cs ih =>
    rw [next?] at h
    split at h
    · simp at h
    · next hread =>
      -- arguments without an end leave no word further to the right either
      intro t ht _
      rw [List.append_nil]
      exact not_beginsWord_of_unterminated hread ht
    · next hread =>
      refine NoWordIn.cons ?_ (ih (Option.map_eq_none_iff.1 h))
      rw [List.append_nil, beginsWord_iff_read position, hread]
      simp

theorem exists_derivation_of_next? {position : Nat} {cs before rest : List Char}
    {p : Placeholder} (h : next? position cs = some (before, p, rest)) :
    ∃ d : Derivation, cs = before ++ (d.written ++ rest) ∧
      p = d.placeholder (position + Utf8.byteLength before) ∧
      NoWordIn before (d.written ++ rest) := by
  induction cs generalizing position before with
  | nil => simp [next?] at h
  | cons c cs ih =>
    rw [next?] at h
    split at h
    · next hread =>
      simp only [Option.some.injEq, Prod.mk.injEq] at h
      obtain ⟨rfl, rfl, rfl⟩ := h
      obtain ⟨d, hcs, hp⟩ := read_eq_found_iff.1 hread
      exact ⟨d, hcs, hp, noWordIn_nil _⟩
    · simp at h
    · next hread =>
      obtain ⟨⟨b, q, r⟩, hnext, heq⟩ := Option.map_eq_some_iff.1 h
      simp only [Prod.mk.injEq] at heq
      obtain ⟨rfl, rfl, rfl⟩ := heq
      obtain ⟨d, rfl, rfl, hno⟩ := ih hnext
      refine ⟨d, rfl, ?_, NoWordIn.cons ?_ hno⟩
      · rw [Utf8.byteLength_cons, Nat.add_assoc]
      · rw [beginsWord_iff_read position, hread]
        simp

/-- The word that begins furthest to the left is determined by the text. -/
theorem eq_of_noWordIn {before before' rest rest' : List Char} {d d' : Derivation}
    (h : before ++ (d.written ++ rest) = before' ++ (d'.written ++ rest'))
    (hno : NoWordIn before (d.written ++ rest)) (hno' : NoWordIn before' (d'.written ++ rest')) :
    before = before' ∧ d = d' ∧ rest = rest' := by
  -- if one began further to the left, the other would have it in the text before
  have hbefore : before = before' := by
    rcases List.append_eq_append_iff.1 h with ⟨t, hb, hw⟩ | ⟨t, hb, hw⟩
    · by_cases ht : t = []
      · simp [hb, ht]
      · refine absurd ?_ (hno' t ⟨before, hb.symm⟩ ht)
        exact ⟨d, rest, hw.symm⟩
    · by_cases ht : t = []
      · simp [hb, ht]
      · refine absurd ?_ (hno t ⟨before', hb.symm⟩ ht)
        exact ⟨d', rest', hw.symm⟩
  subst hbefore
  exact ⟨rfl, Derivation.eq_of_written_append (List.append_cancel_left h)⟩

theorem next?_eq_some_iff {position : Nat} {cs before rest : List Char} {p : Placeholder} :
    next? position cs = some (before, p, rest) ↔
      ∃ d : Derivation, cs = before ++ (d.written ++ rest) ∧
        p = d.placeholder (position + Utf8.byteLength before) ∧
        NoWordIn before (d.written ++ rest) := by
  constructor
  · exact exists_derivation_of_next?
  · rintro ⟨d, rfl, rfl, hno⟩
    cases hnext : next? position (before ++ (d.written ++ rest)) with
    | none =>
      have hsuffix : d.written ++ rest <:+ before ++ (d.written ++ rest) := List.suffix_append _ _
      refine absurd ?_ (noWordIn_of_next?_eq_none hnext _ hsuffix (by simp [d.written_ne_nil]))
      exact ⟨d, rest, by simp⟩
    | some found =>
      obtain ⟨before', p, rest'⟩ := found
      obtain ⟨d', heq, rfl, hno'⟩ := exists_derivation_of_next? hnext
      obtain ⟨rfl, rfl, rfl⟩ := eq_of_noWordIn heq hno hno'
      rfl

theorem next?_eq_none_iff {position : Nat} {cs : List Char} :
    next? position cs = none ↔ NoWordIn cs [] := by
  constructor
  · exact noWordIn_of_next?_eq_none
  · intro hno
    cases hnext : next? position cs with
    | none => rfl
    | some found =>
      obtain ⟨before, p, rest⟩ := found
      obtain ⟨d, rfl, -, -⟩ := exists_derivation_of_next? hnext
      refine absurd ?_ (hno (d.written ++ rest) (List.suffix_append _ _) (by
        simp [d.written_ne_nil]))
      exact ⟨d, rest, by simp⟩

/-! ### The scan -/

theorem cutFrom_of_noWordIn {position : Nat} {cs : List Char} (h : NoWordIn cs []) :
    cutFrom position cs = ([], cs) := by
  rw [cutFrom]
  split
  · rfl
  · next hnext =>
    rw [next?_eq_none_iff.2 h] at hnext
    simp at hnext

theorem cutFrom_of_word {position : Nat} {before rest : List Char} {d : Derivation}
    (h : NoWordIn before (d.written ++ rest)) :
    cutFrom position (before ++ (d.written ++ rest)) =
      ((before, d.placeholder (position + Utf8.byteLength before)) ::
        (cutFrom (position + Utf8.byteLength before + Utf8.byteLength d.written) rest).1,
        (cutFrom (position + Utf8.byteLength before + Utf8.byteLength d.written) rest).2) := by
  have hnext : next? position (before ++ (d.written ++ rest)) =
      some (before, d.placeholder (position + Utf8.byteLength before), rest) :=
    next?_eq_some_iff.2 ⟨d, rfl, rfl, h⟩
  rw [cutFrom]
  split
  · next hnone =>
    rw [hnext] at hnone
    simp at hnone
  · next hsome =>
    rw [hnext, Option.some.injEq, Prod.mk.injEq, Prod.mk.injEq] at hsome
    obtain ⟨rfl, rfl, rfl⟩ := hsome
    rfl

/-- Induction along the placeholders of a text that starts at some byte. -/
@[elab_as_elim]
theorem word_induction {motive : Nat → List Char → Prop}
    (none : ∀ position cs, NoWordIn cs [] → motive position cs)
    (word : ∀ position before (d : Derivation) rest, NoWordIn before (d.written ++ rest) →
      motive (position + Utf8.byteLength before + Utf8.byteLength d.written) rest →
      motive position (before ++ (d.written ++ rest)))
    (position : Nat) (cs : List Char) : motive position cs := by
  induction hn : cs.length using Nat.strongRecOn generalizing position cs with
  | ind n ih =>
    subst hn
    cases hnext : next? position cs with
    | none => exact none position cs (next?_eq_none_iff.1 hnext)
    | some found =>
      obtain ⟨before, p, rest⟩ := found
      have hlength := length_of_next? hnext
      obtain ⟨d, rfl, -, hno⟩ := next?_eq_some_iff.1 hnext
      exact word position before d rest hno (ih rest.length hlength _ rest rfl)

theorem leftmostWords_cutFrom (position : Nat) (cs : List Char) :
    LeftmostWords position cs ((cutFrom position cs).1.map Prod.snd) := by
  induction position, cs using word_induction with
  | none position cs hno =>
    rw [cutFrom_of_noWordIn hno]
    exact .none hno
  | word position before d rest hno ih =>
    rw [cutFrom_of_word hno]
    exact .word hno ih

theorem LeftmostWords.eq_cutFrom {position : Nat} {cs : List Char} {ps : List Placeholder}
    (h : LeftmostWords position cs ps) : ps = (cutFrom position cs).1.map Prod.snd := by
  induction h with
  | none hno =>
    rw [cutFrom_of_noWordIn hno]
    rfl
  | word hno _ ih =>
    rw [cutFrom_of_word hno, List.map_cons, ih]

theorem leftmostWords_iff {text : String} {ps : List Placeholder} :
    LeftmostWords 0 text.toList ps ↔ ps = scan text := by
  constructor
  · intro h
    exact h.eq_cutFrom
  · rintro rfl
    exact leftmostWords_cutFrom 0 text.toList

/-- Each placeholder is a word of the text, with the span that the word has there. -/
theorem LeftmostWords.exists_derivation {position : Nat} {cs : List Char}
    {ps : List Placeholder} (h : LeftmostWords position cs ps) {p : Placeholder} (hp : p ∈ ps) :
    ∃ before d rest, cs = before ++ (Derivation.written d ++ rest) ∧
      p = d.placeholder (position + Utf8.byteLength before) := by
  induction h with
  | none => simp at hp
  | @word position before rest d ps hno _ ih =>
    rcases List.mem_cons.1 hp with rfl | hp
    · exact ⟨before, d, rest, rfl, rfl⟩
    · obtain ⟨before', d', rest', rfl, rfl⟩ := ih hp
      refine ⟨before ++ (d.written ++ before'), d', rest', by simp, ?_⟩
      simp [Nat.add_assoc]

/-- The spans follow each other without overlap. -/
theorem LeftmostWords.pairwise {position : Nat} {cs : List Char} {ps : List Placeholder}
    (h : LeftmostWords position cs ps) : ps.Pairwise fun p q => p.span.stop ≤ q.span.start := by
  induction h with
  | none => exact .nil
  | word hno hrest ih =>
    refine List.Pairwise.cons ?_ ih
    intro q hq
    obtain ⟨before', d', rest', -, rfl⟩ := hrest.exists_derivation hq
    simp [Derivation.placeholder]

/-- Wherever a word of the grammar begins, a placeholder of the scan is. -/
theorem LeftmostWords.covers {position : Nat} {cs : List Char} {ps : List Placeholder}
    (h : LeftmostWords position cs ps) {s t : List Char} (hcs : cs = s ++ t)
    (ht : BeginsWord t) :
    ∃ p ∈ ps, p.span.start ≤ position + Utf8.byteLength s ∧
      position + Utf8.byteLength s < p.span.stop := by
  induction h generalizing s with
  | none hno =>
    subst hcs
    refine absurd ?_ (hno t (List.suffix_append s t) ?_)
    · simpa using ht
    · rintro rfl
      exact not_beginsWord_nil ht
  | @word position before rest d ps hno _ ih =>
    have hinside : ∀ x y, d.written = x ++ y → y ≠ [] → s = before ++ x →
        ∃ p ∈ d.placeholder (position + Utf8.byteLength before) :: ps,
          p.span.start ≤ position + Utf8.byteLength s ∧
            position + Utf8.byteLength s < p.span.stop := by
      rintro x y hxy hy rfl
      refine ⟨_, List.mem_cons_self, ?_, ?_⟩
      · simp [Derivation.placeholder]
      · have hpos := Utf8.byteLength_pos hy
        simp only [Derivation.placeholder, hxy, Utf8.byteLength_append]
        omega
    have hbehind : ∀ y, rest = y ++ t → s = before ++ (d.written ++ y) →
        ∃ p ∈ d.placeholder (position + Utf8.byteLength before) :: ps,
          p.span.start ≤ position + Utf8.byteLength s ∧
            position + Utf8.byteLength s < p.span.stop := by
      rintro y hy rfl
      obtain ⟨p, hp, hstart, hstop⟩ := ih hy
      refine ⟨p, List.mem_cons_of_mem _ hp, ?_, ?_⟩
      · simpa [Nat.add_assoc] using hstart
      · simpa [Nat.add_assoc] using hstop
    -- the text is cut before the word, inside it or behind it
    rcases List.append_eq_append_iff.1 hcs with ⟨x, hs, hword⟩ | ⟨x, hbefore, hrest⟩
    · rcases List.append_eq_append_iff.1 hword with ⟨y, rfl, hy⟩ | ⟨y, hwritten, hy⟩
      · exact hbehind y hy hs
      · by_cases hempty : y = []
        · subst hempty
          rw [List.append_nil] at hwritten
          exact hbehind [] (by simpa using hy.symm) (by rw [hs, hwritten, List.append_nil])
        · exact hinside x y hwritten hempty hs
    · -- cut before the word: no word begins there, unless the cut is where it begins
      by_cases hempty : x = []
      · subst hempty
        exact hinside [] d.written rfl d.written_ne_nil (by simpa using hbefore.symm)
      · exact absurd (hrest ▸ ht) (hno x ⟨s, hbefore.symm⟩ hempty)

/-! ### Trying every position -/

/-- The leftmost placeholder, found by trying every position in turn, also behind arguments
without an end. -/
def nextTried? (position : Nat) : List Char → Option (List Char × Placeholder × List Char)
  | [] => none
  | c :: cs =>
    match read position (c :: cs) with
    | .found p rest => some ([], p, rest)
    | .unterminated | .absent =>
      (nextTried? (position + c.utf8Size) cs).map fun (before, p, rest) => (c :: before, p, rest)

theorem nextTried?_eq_next? (position : Nat) (cs : List Char) :
    nextTried? position cs = next? position cs := by
  induction cs generalizing position with
  | nil => rfl
  | cons c cs ih =>
    rw [nextTried?, next?]
    cases hread : read position (c :: cs) with
    | found p rest => rfl
    | absent => simp only [ih]
    | unterminated =>
      -- the search that gives up here misses nothing
      have hno : NoWordIn cs [] := by
        intro t ht _
        rw [List.append_nil]
        exact not_beginsWord_of_unterminated hread (ht.trans (List.suffix_cons c cs))
      simp only [ih, next?_eq_none_iff.2 hno, Option.map_none]

/-- The placeholders of a text that starts at byte `position`, found by trying every position
that is not inside one found before. -/
def scanEachFrom (position : Nat) (cs : List Char) : List Placeholder :=
  match _h : nextTried? position cs with
  | none => []
  | some (_, p, rest) => p :: scanEachFrom p.span.stop rest
termination_by cs.length
decreasing_by exact length_of_next? (nextTried?_eq_next? position cs ▸ _h)

theorem scanEachFrom_eq_cutFrom (position : Nat) (cs : List Char) :
    scanEachFrom position cs = (cutFrom position cs).1.map Prod.snd := by
  induction position, cs using word_induction with
  | none position cs hno =>
    rw [scanEachFrom, cutFrom_of_noWordIn hno]
    split
    · rfl
    · next hnext =>
      rw [nextTried?_eq_next?, next?_eq_none_iff.2 hno] at hnext
      simp at hnext
  | word position before d rest hno ih =>
    have hnext : next? position (before ++ (d.written ++ rest)) =
        some (before, d.placeholder (position + Utf8.byteLength before), rest) :=
      next?_eq_some_iff.2 ⟨d, rfl, rfl, hno⟩
    rw [scanEachFrom, cutFrom_of_word hno]
    split
    · next hnone =>
      rw [nextTried?_eq_next?, hnext] at hnone
      simp at hnone
    · next hsome =>
      rw [nextTried?_eq_next?, hnext, Option.some.injEq, Prod.mk.injEq, Prod.mk.injEq] at hsome
      obtain ⟨rfl, rfl, rfl⟩ := hsome
      rw [List.map_cons, ← ih]
      rfl

/-- The scan of a text is the list of the leftmost words of the grammar that do not overlap: each
placeholder is a word with the parts of its only derivation, no word begins outside of them, and
trying every position finds no more. -/
theorem scan_leftmost (text : String) :
    (∀ ps, LeftmostWords 0 text.toList ps ↔ ps = scan text) ∧
      (∀ p ∈ scan text, ∃ before d rest, text.toList = before ++ (Derivation.written d ++ rest) ∧
        p = d.placeholder (Utf8.byteLength before) ∧
        ∀ e : Derivation, e.written = d.written → e = d) ∧
      ((scan text).Pairwise fun p q => p.span.stop ≤ q.span.start) ∧
      (∀ before rest, text.toList = before ++ rest → BeginsWord rest →
        ∃ p ∈ scan text,
          p.span.start ≤ Utf8.byteLength before ∧ Utf8.byteLength before < p.span.stop) ∧
      scan text = scanEachFrom 0 text.toList := by
  have hwords : LeftmostWords 0 text.toList (scan text) := leftmostWords_iff.2 rfl
  refine ⟨fun ps => leftmostWords_iff, ?_, hwords.pairwise, ?_, ?_⟩
  · intro p hp
    obtain ⟨before, d, rest, htext, rfl⟩ := hwords.exists_derivation hp
    refine ⟨before, d, rest, htext, by rw [Nat.zero_add], ?_⟩
    intro e he
    exact (Derivation.eq_of_written_append (r := []) (s := []) (by rw [he])).1
  · intro before rest htext hrest
    simpa using hwords.covers htext hrest
  · exact (scanEachFrom_eq_cutFrom 0 text.toList).symm

end CommandTemplates.Placeholder
