/-
Where words of the grammar of placeholders begin.

A text begins with at most one word, and the word has one derivation.  Where
arguments run to the end of the text none begins further to the right: an opening
brace begins a unit of an argument wherever it stands, so the arguments of such a
word would end those that it stands in.

* `Derivation.eq_of_written_append` — one word, and one derivation of it;
* `not_beginsWord_of_unterminated` — no word behind arguments without an end.
-/
import CommandTemplates.Proofs.Placeholder.Grammar

namespace CommandTemplates.Placeholder

/-! ### One word, one derivation -/

/-- A text is cut in one way only into a unit that fits and the rest. -/
theorem ArgumentUnit.eq_of_written_append {u v : ArgumentUnit} {s t : List Char} (hu : u.Fits s)
    (hv : v.Fits t) (h : u.written ++ s = v.written ++ t) : u = v ∧ s = t := by
  cases u with
  | pair c =>
    cases v with
    | pair d => simpa [ArgumentUnit.written] using h
    | single d =>
      simp only [ArgumentUnit.written, List.cons_append, List.nil_append, List.cons.injEq] at h
      obtain ⟨rfl, rfl⟩ := h
      exact absurd hu (by simpa [ArgumentUnit.Fits] using hv.2.2)
  | single c =>
    cases v with
    | pair d =>
      simp only [ArgumentUnit.written, List.cons_append, List.nil_append, List.cons.injEq] at h
      obtain ⟨rfl, rfl⟩ := h
      exact absurd hv (by simpa [ArgumentUnit.Fits] using hu.2.2)
    | single d => simpa [ArgumentUnit.written] using h

/-- No unit that fits begins where an argument ends. -/
theorem writtenArguments_append_ne_unit {u : ArgumentUnit} {s : List Char} (hu : u.Fits s)
    (arguments : List (List ArgumentUnit)) (rest : List Char) :
    writtenArguments arguments ++ rest ≠ u.written ++ s := by
  intro h
  cases u with
  | pair c => cases arguments <;> simp [writtenArguments, ArgumentUnit.written] at h
  | single c =>
    obtain ⟨hcolon, hclose, -⟩ := hu
    cases arguments with
    | nil =>
      simp only [writtenArguments, ArgumentUnit.written, List.cons_append, List.nil_append,
        List.cons.injEq] at h
      obtain ⟨rfl, rfl⟩ := h
      exact hclose ⟨rfl, rfl⟩
    | cons units arguments =>
      simp only [writtenArguments, ArgumentUnit.written, List.cons_append, List.nil_append,
        List.cons.injEq] at h
      exact hcolon h.1.symm

theorem fits_written_append {u : ArgumentUnit} {units : List ArgumentUnit}
    {arguments : List (List ArgumentUnit)} (rest : List Char)
    (h : u.Fits (writtenUnits units ++ writtenArguments arguments)) :
    u.Fits (writtenUnits units ++ (writtenArguments arguments ++ rest)) := by
  rw [← List.append_assoc]
  exact (fits_append_iff (by simp [writtenArguments_ne_nil])).2 h

theorem units_unique {us vs : List ArgumentUnit} {as bs : List (List ArgumentUnit)}
    {r s : List Char} (hus : UnitsFit us (writtenArguments as))
    (hvs : UnitsFit vs (writtenArguments bs))
    (h : writtenUnits us ++ (writtenArguments as ++ r) =
      writtenUnits vs ++ (writtenArguments bs ++ s)) :
    us = vs ∧ writtenArguments as ++ r = writtenArguments bs ++ s := by
  induction us generalizing vs with
  | nil =>
    cases vs with
    | nil => exact ⟨rfl, h⟩
    | cons v vs =>
      have hv := fits_written_append s hvs.1
      -- one argument ends here, and no unit of the other begins with an end
      refine absurd ?_ (writtenArguments_append_ne_unit hv as r)
      simpa [writtenUnits] using h
  | cons u us ih =>
    have hu := fits_written_append r hus.1
    cases vs with
    | nil =>
      refine absurd ?_ (writtenArguments_append_ne_unit hu bs s)
      simpa [writtenUnits] using h.symm
    | cons v vs =>
      have hv := fits_written_append s hvs.1
      obtain ⟨rfl, hrest⟩ := ArgumentUnit.eq_of_written_append hu hv (by
        simpa [writtenUnits] using h)
      obtain ⟨rfl, htail⟩ := ih hus.2 hvs.2 hrest
      exact ⟨rfl, htail⟩

theorem arguments_unique {as bs : List (List ArgumentUnit)} {r s : List Char}
    (has : ArgumentsFit as) (hbs : ArgumentsFit bs)
    (h : writtenArguments as ++ r = writtenArguments bs ++ s) : as = bs := by
  induction as generalizing bs with
  | nil =>
    cases bs with
    | nil => rfl
    | cons vs bs => simp [writtenArguments] at h
  | cons us as ih =>
    cases bs with
    | nil => simp [writtenArguments] at h
    | cons vs bs =>
      simp only [writtenArguments, List.cons_append, List.cons.injEq, true_and,
        List.append_assoc] at h
      obtain ⟨rfl, hrest⟩ := units_unique has.1 hbs.1 h
      rw [ih has.2 hbs.2 hrest]

/-- A text begins with at most one word of the grammar, and the word has one derivation. -/
theorem Derivation.eq_of_written_append {d e : Derivation} {r s : List Char}
    (h : d.written ++ r = e.written ++ s) : d = e ∧ r = s := by
  -- reading gives the flag, the name and the whole word; only the units need the grammar
  have hread : Attempt.found (d.placeholder 0) r = .found (e.placeholder 0) s := by
    rw [← read_written, ← read_written, h]
  simp only [Attempt.found.injEq, Derivation.placeholder, Placeholder.mk.injEq,
    String.ofList_inj] at hread
  obtain ⟨⟨hescaped, hname, -, -, hwritten⟩, hrest⟩ := hread
  have harguments : d.arguments = e.arguments := by
    refine arguments_unique (r := []) (s := []) d.arguments_fit e.arguments_fit ?_
    simpa [Derivation.written, hescaped, hname] using hwritten
  refine ⟨?_, hrest⟩
  cases d
  cases e
  simp_all

/-! ### Arguments without an end -/

/-- Text without colons, closing braces and backslashes does not end an argument list. -/
theorem isSome_readArguments_plain {plain : List Char} (cs : List Char)
    (h : ∀ c ∈ plain, c ≠ ':' ∧ c ≠ '}' ∧ c ≠ '\\') :
    (readArguments (plain ++ cs)).isSome = (readArguments cs).isSome := by
  induction plain with
  | nil => rfl
  | cons c plain ih =>
    have hc := h c (by simp)
    have hfit : (ArgumentUnit.single c).Fits (plain ++ cs) :=
      ⟨hc.1, fun hclose => hc.2.1 hclose.1, fun hpair => hc.2.2 hpair.1⟩
    have hread := readArguments_unit hfit
    simp only [ArgumentUnit.written, List.cons_append, List.nil_append] at hread
    rw [List.cons_append, hread, Option.isSome_map]
    exact ih fun d hd => h d (by simp [hd])

theorem plain_opening (escaped : Bool) {name : List Char}
    (h : ∀ c ∈ name, Text.isNameCharacter c = true) :
    ∀ c ∈ opening escaped name, c ≠ ':' ∧ c ≠ '}' ∧ c ≠ '\\' := by
  intro c hc
  simp only [opening, List.mem_cons, List.mem_append] at hc
  rcases hc with rfl | rfl | hc | hc
  · decide
  · decide
  · have hmark : c = '!' := by split at hc <;> simp_all
    subst hmark
    decide
  · have hchar := h c hc
    obtain ⟨-, hclose, hcolon, -, hpair⟩ := isNameCharacter_punctuation
    refine ⟨?_, ?_, ?_⟩ <;> rintro rfl <;> simp_all

theorem isSome_readArguments_written (d : Derivation) (rest : List Char) :
    (readArguments (d.written ++ rest)).isSome = true := by
  rw [Derivation.written, List.append_assoc,
    isSome_readArguments_plain _ (plain_opening d.escaped d.name_characters),
    readArguments_writtenArguments rest d.arguments_fit]
  rfl

/-- An opening brace begins a unit wherever it stands, so arguments that end behind it end also
when they are read from further left. -/
theorem isSome_readArguments_append {cs : List Char} (before : List Char)
    (h : (readArguments ('{' :: cs)).isSome = true) :
    (readArguments (before ++ '{' :: cs)).isSome = true := by
  induction before using unit_induction with
  | nil => exact h
  | close after => simp [readArguments_close]
  | colon after ih =>
    rw [List.cons_append, readArguments_colon, Option.isSome_map]
    exact ih
  | unit u after hu ih =>
    have hfit : u.Fits (after ++ '{' :: cs) := by
      cases after with
      | nil => cases u <;> simp_all [ArgumentUnit.Fits]
      | cons c after => exact (fits_append_iff (by simp)).2 hu
    rw [List.append_assoc, readArguments_unit hfit, Option.isSome_map]
    exact ih

theorem not_beginsWord_of_readArguments {cs : List Char} (h : readArguments cs = none)
    {t : List Char} (ht : t <:+ cs) : ¬ BeginsWord t := by
  rintro ⟨d, rest, rfl⟩
  obtain ⟨before, rfl⟩ := ht
  -- the arguments would end where the word does
  have hsome : (readArguments (before ++ (d.written ++ rest))).isSome = true :=
    isSome_readArguments_append before (isSome_readArguments_written d rest)
  rw [h] at hsome
  exact absurd hsome (by simp)

theorem readArguments_of_readEnding {cs : List Char} (h : readEnding cs = .unterminated) :
    readArguments cs = none := by
  unfold readEnding at h
  split at h
  · simp at h
  · next after =>
    split at h
    · simp at h
    · next hread => rw [readArguments_colon, hread, Option.map_none]
  · simp at h

/-- Behind an argument list that runs to the end of the text no word of the grammar begins. -/
theorem not_beginsWord_of_unterminated {position : Nat} {cs : List Char}
    (h : read position cs = .unterminated) {t : List Char} (ht : t <:+ cs) : ¬ BeginsWord t := by
  refine not_beginsWord_of_readArguments ?_ ht
  unfold read at h
  split at h
  · next inside =>
    dsimp only at h
    split at h
    · simp at h
    · split at h
      · simp at h
      · next hending =>
        have hplain := plain_opening (readMark inside).1
          fun c hc => List.all_eq_true.1 (List.all_takeWhile (l := (readMark inside).2)) c hc
        -- up to the first colon nothing ends an argument, so reading arguments from the
        -- braces on is reading them from that colon on
        have hnone := isSome_readArguments_plain
          ((readMark inside).2.dropWhile Text.isNameCharacter) hplain
        rw [opening_append_dropWhile, readArguments_of_readEnding hending] at hnone
        simpa using hnone
      · simp at h
  · simp at h

end CommandTemplates.Placeholder
