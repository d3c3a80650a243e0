/-
The grammar of placeholders, stated apart from the reader.

A placeholder is `{{`, an optional `!`, a name, arguments with a `:` before each,
and `}}`.  An argument is a list of units: a protected character behind a
backslash, or a single character that neither ends the argument nor begins such a
pair.  Whether a single character may stand depends on the text after it, so a
derivation carries the proof that each of its units fits where it stands.

* `readArguments_unit`, `unit_induction` — arguments are read unit by unit;
* `read_eq_found_iff` — `read` finds at a position exactly what the grammar derives
  there.
-/
import CommandTemplates.Placeholder

namespace CommandTemplates.Placeholder

/-- A unit of a written argument. -/
inductive ArgumentUnit where
  /-- A character behind a backslash. -/
  | pair (c : Char)
  /-- A character that stands for itself. -/
  | single (c : Char)
  deriving DecidableEq, Repr

namespace ArgumentUnit

/-- The characters of a unit. -/
def written : ArgumentUnit → List Char
  | .pair c => ['\\', c]
  | .single c => [c]

/-- The character that a unit stands for. -/
def meaning : ArgumentUnit → Char
  | .pair c | .single c => c

/-- Whether a unit may stand before a text: a pair holds `:`, `}` or a backslash, and a single
character is no `:`, no `}` before another one and no backslash before one of the three. -/
def Fits : ArgumentUnit → List Char → Prop
  | .pair c, _ => c = ':' ∨ c = '}' ∨ c = '\\'
  | .single c, after =>
    c ≠ ':' ∧ ¬ (c = '}' ∧ after.head? = some '}') ∧
      ¬ (c = '\\' ∧
        (after.head? = some ':' ∨ after.head? = some '}' ∨ after.head? = some '\\'))

end ArgumentUnit

/-- The characters of an argument. -/
def writtenUnits (units : List ArgumentUnit) : List Char := units.flatMap ArgumentUnit.written

/-- The characters of arguments, with the braces that close the placeholder. -/
def writtenArguments : List (List ArgumentUnit) → List Char
  | [] => ['}', '}']
  | units :: rest => ':' :: (writtenUnits units ++ writtenArguments rest)

/-- The characters of a placeholder up to the end of its name. -/
def opening (escaped : Bool) (name : List Char) : List Char :=
  '{' :: '{' :: ((if escaped then ['!'] else []) ++ name)

/-- The arguments that lists of units stand for. -/
def meanings (arguments : List (List ArgumentUnit)) : List (List Char) :=
  arguments.map fun units => units.map ArgumentUnit.meaning

/-- Whether each unit of an argument may stand where it does, with the given text after the last. -/
def UnitsFit : List ArgumentUnit → List Char → Prop
  | [], _ => True
  | u :: units, after => u.Fits (writtenUnits units ++ after) ∧ UnitsFit units after

/-- Whether each unit of some arguments may stand where it does. -/
def ArgumentsFit : List (List ArgumentUnit) → Prop
  | [] => True
  | units :: rest => UnitsFit units (writtenArguments rest) ∧ ArgumentsFit rest

/-- A derivation of a word of the grammar.  The characters of its name are those that the reader
takes for a name, `Text.isNameCharacter`: letters, numbers and `_`.  They are not those of the
names of custom variables, `Text.isWordCharacter`, which have combining marks and fewer kinds of
numbers. -/
structure Derivation where
  escaped : Bool
  name : List Char
  arguments : List (List ArgumentUnit)
  name_ne_nil : name ≠ []
  name_characters : ∀ c ∈ name, Text.isNameCharacter c = true
  arguments_fit : ArgumentsFit arguments

namespace Derivation

/-- The word that is derived. -/
def written (d : Derivation) : List Char :=
  opening d.escaped d.name ++ writtenArguments d.arguments

/-- The placeholder that a word spells at byte `position` of a text. -/
def placeholder (d : Derivation) (position : Nat) : Placeholder where
  escaped := d.escaped
  name := String.ofList d.name
  arguments := (meanings d.arguments).map String.ofList
  span := ⟨position, position + Utf8.byteLength d.written⟩
  source := String.ofList d.written

end Derivation

/-- Whether a text begins with a word of the grammar. -/
def BeginsWord (cs : List Char) : Prop := ∃ (d : Derivation) (rest : List Char), cs = d.written ++ rest

/-! ### Reading arguments -/

theorem isProtected_iff {c : Char} : isProtected c = true ↔ c = ':' ∨ c = '}' ∨ c = '\\' := by
  simp [isProtected, or_assoc]

/-- Adds a character to the front of what was read. -/
def pushRead (c : Char) (r : List (List Char) × List Char) : List (List Char) × List Char :=
  (pushFront c r.1, r.2)

theorem readArguments_close (rest : List Char) :
    readArguments ('}' :: '}' :: rest) = some ([[]], rest) := by
  rw [readArguments]

theorem readArguments_colon (rest : List Char) :
    readArguments (':' :: rest) = (readArguments rest).map fun r => ([] :: r.1, r.2) := by
  rw [readArguments]

/-- A unit that fits is read as one character. -/
theorem readArguments_unit {u : ArgumentUnit} {rest : List Char} (h : u.Fits rest) :
    readArguments (u.written ++ rest) = (readArguments rest).map (pushRead u.meaning) := by
  cases u with
  | pair c =>
    have hc : isProtected c = true := isProtected_iff.2 h
    simp only [ArgumentUnit.written, List.cons_append, List.nil_append]
    rw [readArguments, if_pos hc]
    rfl
  | single c =>
    obtain ⟨hcolon, hclose, hpair⟩ := h
    simp only [ArgumentUnit.written, List.cons_append, List.nil_append]
    rw [readArguments.eq_def]
    -- the branches for an end, a colon and a protected character need what the unit may not be
    split
    · next heq => simp at heq
    · next heq => simp_all
    · next heq => simp_all
    · next d after heq =>
      simp only [List.cons.injEq] at heq
      obtain ⟨rfl, rfl⟩ := heq
      have hd : ¬ isProtected d = true := by
        rw [isProtected_iff]
        simpa using hpair
      rw [if_neg hd]
      rfl
    · next heq =>
      simp only [List.cons.injEq] at heq
      obtain ⟨rfl, rfl⟩ := heq
      rfl

/-- Induction along the units of a text, which may end in `}}` or in the middle of an argument. -/
@[elab_as_elim]
theorem unit_induction {motive : List Char → Prop} (nil : motive [])
    (close : ∀ rest, motive ('}' :: '}' :: rest))
    (colon : ∀ rest, motive rest → motive (':' :: rest))
    (unit : ∀ (u : ArgumentUnit) rest, u.Fits rest → motive rest → motive (u.written ++ rest))
    (cs : List Char) : motive cs := by
  -- the branches of the reader; in the last two the branches before did not apply, which
  -- is what makes a single character fit
  fun_induction readArguments cs with
  | case1 => exact nil
  | case2 rest => exact close rest
  | case3 rest ih => exact colon rest ih
  | case4 c rest hc ih => exact unit (.pair c) rest (isProtected_iff.1 hc) ih
  | case5 c rest hc ih =>
    refine unit (.single '\\') (c :: rest) ⟨by decide, by simp, ?_⟩ ih
    rw [isProtected_iff] at hc
    simpa using hc
  | case6 c rest hclose hcolon hpair ih =>
    refine unit (.single c) rest ⟨hcolon, ?_, ?_⟩ ih
    · rintro ⟨rfl, hr⟩
      obtain ⟨after, rfl⟩ := List.head?_eq_some_iff.1 hr
      exact hclose after rfl rfl
    · rintro ⟨rfl, hr⟩
      cases rest with
      | nil => simp at hr
      | cons d after => exact hpair d after rfl rfl

theorem writtenArguments_ne_nil (arguments : List (List ArgumentUnit)) :
    writtenArguments arguments ≠ [] := by
  cases arguments <;> simp [writtenArguments]

/-- Whether a unit may stand before a text depends on the first character of the text only. -/
theorem fits_append_iff {u : ArgumentUnit} {s t : List Char} (hs : s ≠ []) :
    u.Fits (s ++ t) ↔ u.Fits s := by
  obtain ⟨c, s, rfl⟩ := List.exists_cons_of_ne_nil hs
  cases u <;> simp [ArgumentUnit.Fits]

theorem readArguments_writtenUnits {units : List ArgumentUnit} {s t rest : List Char}
    {argument : List Char} {arguments : List (List Char)} (hfit : UnitsFit units s) (hs : s ≠ [])
    (h : readArguments (s ++ t) = some (argument :: arguments, rest)) :
    readArguments (writtenUnits units ++ (s ++ t)) =
      some ((units.map ArgumentUnit.meaning ++ argument) :: arguments, rest) := by
  induction units with
  | nil => simpa [writtenUnits] using h
  | cons u units ih =>
    obtain ⟨hu, hunits⟩ := hfit
    -- `s` stands behind the last unit, so what comes after `s` matters to no unit
    have hne : writtenUnits units ++ s ≠ [] := by simp [hs]
    have hu' : u.Fits (writtenUnits units ++ (s ++ t)) := by
      rw [← List.append_assoc]
      exact (fits_append_iff hne).2 hu
    have hsplit : writtenUnits (u :: units) ++ (s ++ t) =
        u.written ++ (writtenUnits units ++ (s ++ t)) := by
      simp [writtenUnits]
    rw [hsplit, readArguments_unit hu', ih hunits]
    rfl

theorem readArguments_writtenArguments {arguments : List (List ArgumentUnit)} (rest : List Char)
    (h : ArgumentsFit arguments) :
    readArguments (writtenArguments arguments ++ rest) = some ([] :: meanings arguments, rest) := by
  induction arguments with
  | nil => exact readArguments_close rest
  | cons units arguments ih =>
    obtain ⟨hunits, harguments⟩ := h
    have hread := readArguments_writtenUnits hunits (writtenArguments_ne_nil arguments)
      (ih harguments)
    simp only [writtenArguments, List.cons_append, List.append_assoc]
    rw [readArguments_colon, hread]
    simp [meanings]

/-- What is read as arguments is written by units that fit. -/
theorem exists_units_of_readArguments {cs rest : List Char} {arguments : List (List Char)}
    (h : readArguments cs = some (arguments, rest)) :
    ∃ units others, ArgumentsFit (units :: others) ∧
      cs = writtenUnits units ++ (writtenArguments others ++ rest) ∧
      arguments = meanings (units :: others) := by
  induction cs using unit_induction generalizing arguments with
  | nil => simp [readArguments] at h
  | close after =>
    rw [readArguments_close, Option.some.injEq, Prod.mk.injEq] at h
    obtain ⟨rfl, rfl⟩ := h
    exact ⟨[], [], ⟨trivial, trivial⟩, rfl, rfl⟩
  | colon after ih =>
    rw [readArguments_colon, Option.map_eq_some_iff] at h
    obtain ⟨⟨read, r⟩, hread, heq⟩ := h
    simp only [Prod.mk.injEq] at heq
    obtain ⟨rfl, rfl⟩ := heq
    obtain ⟨units, others, hfit, rfl, rfl⟩ := ih hread
    refine ⟨[], units :: others, ⟨trivial, hfit⟩, ?_, rfl⟩
    simp [writtenUnits, writtenArguments]
  | unit u after hu ih =>
    rw [readArguments_unit hu, Option.map_eq_some_iff] at h
    obtain ⟨⟨read, r⟩, hread, heq⟩ := h
    simp only [pushRead, Prod.mk.injEq] at heq
    obtain ⟨rfl, rfl⟩ := heq
    obtain ⟨units, others, hfit, rfl, rfl⟩ := ih hread
    -- the unit fits in front of what is written behind it, whatever `rest` is
    have hne : writtenUnits units ++ writtenArguments others ≠ [] := by
      simp [writtenArguments_ne_nil]
    rw [← List.append_assoc, fits_append_iff hne] at hu
    refine ⟨u :: units, others, ⟨⟨hu, hfit.1⟩, hfit.2⟩, ?_, rfl⟩
    simp [writtenUnits]

/-! ### Reading a placeholder -/

theorem readEnding_writtenArguments {arguments : List (List ArgumentUnit)} (rest : List Char)
    (h : ArgumentsFit arguments) :
    readEnding (writtenArguments arguments ++ rest) = .closed (meanings arguments) rest := by
  cases arguments with
  | nil => rfl
  | cons units arguments =>
    have hread := readArguments_writtenArguments rest h
    simp only [writtenArguments, List.cons_append] at hread ⊢
    rw [readArguments_colon, Option.map_eq_some_iff] at hread
    obtain ⟨⟨read, r⟩, hread, heq⟩ := hread
    simp only [Prod.mk.injEq, List.cons.injEq, true_and] at heq
    obtain ⟨rfl, rfl⟩ := heq
    simp only [readEnding, hread]

theorem exists_arguments_of_readEnding {cs rest : List Char} {arguments : List (List Char)}
    (h : readEnding cs = .closed arguments rest) :
    ∃ written, ArgumentsFit written ∧ cs = writtenArguments written ++ rest ∧
      arguments = meanings written := by
  unfold readEnding at h
  split at h
  · next after =>
    simp only [Ending.closed.injEq] at h
    obtain ⟨rfl, rfl⟩ := h
    exact ⟨[], trivial, rfl, rfl⟩
  · next after =>
    split at h
    · next read r hread =>
      simp only [Ending.closed.injEq] at h
      obtain ⟨rfl, rfl⟩ := h
      obtain ⟨units, others, hfit, rfl, rfl⟩ := exists_units_of_readArguments hread
      refine ⟨units :: others, hfit, ?_, rfl⟩
      simp [writtenArguments]
    · simp at h
  · simp at h

/-- Punctuation of placeholders that no name holds. -/
theorem isNameCharacter_punctuation :
    Text.isNameCharacter '{' = false ∧ Text.isNameCharacter '}' = false ∧
      Text.isNameCharacter ':' = false ∧ Text.isNameCharacter '!' = false ∧
      Text.isNameCharacter '\\' = false := by decide

/-- What follows a name begins with a character that no name holds. -/
theorem exists_writtenArguments_eq_cons (arguments : List (List ArgumentUnit)) :
    ∃ c rest, writtenArguments arguments = c :: rest ∧ Text.isNameCharacter c = false := by
  cases arguments with
  | nil => exact ⟨'}', ['}'], rfl, isNameCharacter_punctuation.2.1⟩
  | cons units arguments => exact ⟨':', _, rfl, isNameCharacter_punctuation.2.2.1⟩

theorem readMark_of_ne {c : Char} (h : c ≠ '!') (cs : List Char) :
    readMark (c :: cs) = (false, c :: cs) := by
  unfold readMark
  split
  · next heq => simp_all
  · rfl

namespace Derivation

/-- The word from its name on. -/
def named (d : Derivation) : List Char := d.name ++ writtenArguments d.arguments

theorem readMark_named (d : Derivation) (rest : List Char) :
    readMark ((if d.escaped then ['!'] else []) ++ (d.named ++ rest)) =
      (d.escaped, d.named ++ rest) := by
  obtain ⟨c, name, hname⟩ := List.exists_cons_of_ne_nil d.name_ne_nil
  have hc : c ≠ '!' := by
    rintro rfl
    have hmark := d.name_characters '!' (by simp [hname])
    rw [isNameCharacter_punctuation.2.2.2.1] at hmark
    exact absurd hmark (by decide)
  cases hd : d.escaped with
  | true => rfl
  | false =>
    simp only [named, hname, Bool.false_eq_true, if_false, List.nil_append, List.cons_append]
    exact readMark_of_ne hc _

theorem takeWhile_named (d : Derivation) (rest : List Char) :
    (d.named ++ rest).takeWhile Text.isNameCharacter = d.name := by
  obtain ⟨c, after, harguments, hc⟩ := exists_writtenArguments_eq_cons d.arguments
  rw [named, List.append_assoc, List.takeWhile_append_of_pos d.name_characters, harguments]
  simp [hc]

theorem dropWhile_named (d : Derivation) (rest : List Char) :
    (d.named ++ rest).dropWhile Text.isNameCharacter = writtenArguments d.arguments ++ rest := by
  obtain ⟨c, after, harguments, hc⟩ := exists_writtenArguments_eq_cons d.arguments
  rw [named, List.append_assoc, List.dropWhile_append_of_pos d.name_characters, harguments]
  simp [hc]

end Derivation

/-- Where the grammar derives a word, the reader finds its placeholder. -/
theorem read_written (position : Nat) (d : Derivation) (rest : List Char) :
    read position (d.written ++ rest) = .found (d.placeholder position) rest := by
  have hwritten : d.written ++ rest =
      '{' :: '{' :: ((if d.escaped then ['!'] else []) ++ (d.named ++ rest)) := by
    simp [Derivation.written, opening, Derivation.named]
  have hsource : (d.written ++ rest).take ((d.written ++ rest).length - rest.length) =
      d.written := by
    simp
  rw [hwritten] at hsource ⊢
  simp only [read, d.readMark_named, d.takeWhile_named, d.dropWhile_named, d.name_ne_nil,
    if_false, readEnding_writtenArguments rest d.arguments_fit, hsource]
  rfl

/-- What is behind two braces, put together again from its parts. -/
theorem opening_append_dropWhile (inside : List Char) :
    opening (readMark inside).1 ((readMark inside).2.takeWhile Text.isNameCharacter) ++
      (readMark inside).2.dropWhile Text.isNameCharacter = '{' :: '{' :: inside := by
  have hmark : (if (readMark inside).1 then ['!'] else []) ++ (readMark inside).2 = inside := by
    unfold readMark
    split <;> rfl
  simp only [opening, List.cons_append, List.append_assoc, List.takeWhile_append_dropWhile, hmark]

/-- What the reader finds is derived by the grammar. -/
theorem exists_derivation_of_read {position : Nat} {cs rest : List Char} {p : Placeholder}
    (h : read position cs = .found p rest) :
    ∃ d : Derivation, cs = d.written ++ rest ∧ p = d.placeholder position := by
  have hfound := h
  unfold read at h
  split at h
  · next inside =>
    dsimp only at h
    split at h
    · simp at h
    · next hname =>
      split at h
      · simp at h
      · simp at h
      · next arguments after hending =>
        obtain ⟨units, hfit, hdrop, rfl⟩ := exists_arguments_of_readEnding hending
        -- the branches that lead here have checked all that makes a derivation
        let d : Derivation :=
          { escaped := (readMark inside).1
            name := (readMark inside).2.takeWhile Text.isNameCharacter
            arguments := units
            name_ne_nil := hname
            name_characters := fun c hc => List.all_eq_true.1 List.all_takeWhile c hc
            arguments_fit := hfit }
        have hcs : '{' :: '{' :: inside = d.written ++ after := by
          rw [Derivation.written, List.append_assoc, ← hdrop]
          exact (opening_append_dropWhile inside).symm
        -- reading that word gives its own placeholder, so it is the one that was found
        rw [hcs, read_written, Attempt.found.injEq] at hfound
        obtain ⟨rfl, rfl⟩ := hfound
        exact ⟨d, hcs, rfl⟩
  · simp at h

theorem read_eq_found_iff {position : Nat} {cs rest : List Char} {p : Placeholder} :
    read position cs = .found p rest ↔
      ∃ d : Derivation, cs = d.written ++ rest ∧ p = d.placeholder position := by
  constructor
  · exact exists_derivation_of_read
  · rintro ⟨d, rfl, rfl⟩
    exact read_written position d rest

end CommandTemplates.Placeholder
