/-
The text before a word of the grammar.

Whether a word begins further to the left, and takes in the word that stands there, is
decided by the text before the latter: a name does not reach over its braces, and
arguments that reach it end in it or behind it.  So a word may take the place of another
without any change to the placeholders before it.

* `closes_append_written_iff` — what ends a word that begins before another one;
* `BeginsWord.exchange`, `NoWordIn.exchange` — so it does not matter which the other is.
-/
import CommandTemplates.Proofs.Placeholder.Encoding

namespace CommandTemplates.Placeholder

/-- Whether a text goes on, behind a name, to the end of a word. -/
def Closes (cs : List Char) : Prop := ∃ arguments rest, readEnding cs = .closed arguments rest

theorem exists_braces_of_beginsWord {cs : List Char} (h : BeginsWord cs) :
    ∃ inside, cs = '{' :: '{' :: inside := by
  obtain ⟨d, rest, rfl⟩ := h
  exact ⟨_, rfl⟩

/-- Behind two braces a word needs a name and an end. -/
theorem beginsWord_braces_iff {inside : List Char} :
    BeginsWord ('{' :: '{' :: inside) ↔
      (readMark inside).2.takeWhile Text.isNameCharacter ≠ [] ∧
        Closes ((readMark inside).2.dropWhile Text.isNameCharacter) := by
  rw [beginsWord_iff_read 0, Closes, read]
  dsimp only
  split
  · next hname => simp [hname]
  · next hname =>
    cases readEnding ((readMark inside).2.dropWhile Text.isNameCharacter) <;> simp [hname]

/-! ### Reading up to a brace -/

theorem readMark_append_brace (inside cs : List Char) :
    readMark (inside ++ '{' :: cs) = ((readMark inside).1, (readMark inside).2 ++ '{' :: cs) := by
  cases inside with
  | nil => rfl
  | cons c inside =>
    by_cases hc : c = '!'
    · subst hc
      rfl
    · rw [List.cons_append, readMark_of_ne hc, readMark_of_ne hc, List.cons_append]

/-- No name reaches over a brace. -/
theorem takeWhile_append_brace (named cs : List Char) :
    (named ++ '{' :: cs).takeWhile Text.isNameCharacter =
      named.takeWhile Text.isNameCharacter := by
  have hbrace : Text.isNameCharacter '{' = false := isNameCharacter_punctuation.1
  induction named with
  | nil => simp [hbrace]
  | cons c named ih => simp [List.takeWhile_cons, ih]

theorem dropWhile_append_brace (named cs : List Char) :
    (named ++ '{' :: cs).dropWhile Text.isNameCharacter =
      named.dropWhile Text.isNameCharacter ++ '{' :: cs := by
  have hbrace : Text.isNameCharacter '{' = false := isNameCharacter_punctuation.1
  induction named with
  | nil => simp [hbrace]
  | cons c named ih =>
    rw [List.cons_append, List.dropWhile_cons, List.dropWhile_cons, ih]
    split <;> rfl

/-! ### A word in the place of another -/

theorem Derivation.exists_written_eq_brace (d : Derivation) (rest : List Char) :
    ∃ cs, d.written ++ rest = '{' :: cs := ⟨_, rfl⟩

/-- What follows a name up to another word ends a word if it does so by itself, or if it begins
arguments: they end in the other word or behind it. -/
theorem closes_append_written_iff {left : List Char} {d : Derivation} {rest : List Char} :
    Closes (left ++ (d.written ++ rest)) ↔ ['}', '}'] <+: left ∨ [':'] <+: left := by
  constructor
  · rintro ⟨arguments, after, hending⟩
    obtain ⟨written, -, hleft, -⟩ := exists_arguments_of_readEnding hending
    obtain ⟨cs, hcs⟩ := d.exists_written_eq_brace rest
    rw [hcs] at hleft
    cases written with
    | nil =>
      rcases left with - | ⟨c, - | ⟨c', left⟩⟩ <;> simp_all [writtenArguments]
    | cons units written =>
      rcases left with - | ⟨c, left⟩ <;> simp_all [writtenArguments]
  · rintro (⟨left, rfl⟩ | ⟨left, rfl⟩)
    · exact ⟨[], left ++ (d.written ++ rest), rfl⟩
    · obtain ⟨cs, hcs⟩ := d.exists_written_eq_brace rest
      have hsome : (readArguments (left ++ (d.written ++ rest))).isSome = true := by
        have hinner := isSome_readArguments_written d rest
        rw [hcs] at hinner ⊢
        exact isSome_readArguments_append left hinner
      obtain ⟨⟨arguments, after⟩, hread⟩ := Option.isSome_iff_exists.1 hsome
      refine ⟨arguments, after, ?_⟩
      simp only [List.cons_append, List.nil_append, readEnding, hread]

/-- A word that begins before another one begins there too before any other, whatever is behind
it. -/
theorem BeginsWord.exchange {t : List Char} {d : Derivation} {rest : List Char}
    (h : BeginsWord (t ++ (d.written ++ rest))) (ht : t ≠ []) (e : Derivation)
    (rest' : List Char) : BeginsWord (t ++ (e.written ++ rest')) := by
  obtain ⟨inside, hinside⟩ := exists_braces_of_beginsWord h
  rcases t with - | ⟨c, - | ⟨c', t⟩⟩
  · exact absurd rfl ht
  · -- one brace before the word makes three
    obtain rfl : c = '{' := by simpa using (List.cons.inj hinside).1
    exact absurd h (not_beginsWord_three_braces _)
  · simp only [List.cons_append, List.cons.injEq] at hinside
    obtain ⟨rfl, rfl, -⟩ := hinside
    obtain ⟨cs, hcs⟩ := d.exists_written_eq_brace rest
    obtain ⟨cs', hcs'⟩ := e.exists_written_eq_brace rest'
    rw [List.cons_append, List.cons_append, beginsWord_braces_iff] at h ⊢
    rw [hcs, readMark_append_brace, takeWhile_append_brace, dropWhile_append_brace, ← hcs,
      closes_append_written_iff] at h
    rw [hcs', readMark_append_brace, takeWhile_append_brace, dropWhile_append_brace, ← hcs',
      closes_append_written_iff]
    exact h

theorem NoWordIn.exchange {before : List Char} {d : Derivation} {rest : List Char}
    (h : NoWordIn before (d.written ++ rest)) (e : Derivation) (rest' : List Char) :
    NoWordIn before (e.written ++ rest') := by
  intro t ht hne hword
  exact h t ht hne (hword.exchange hne d rest)

end CommandTemplates.Placeholder
