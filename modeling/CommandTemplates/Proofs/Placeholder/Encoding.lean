/-
Placeholders written down for given arguments.

`encode` puts a backslash before every character of an argument that could end the
argument.  What is written so is read back, whatever stands around it
(`scan_encode`): the text before it must only not hold `{{` itself, and may even end
in a brace.
-/
import CommandTemplates.Proofs.Placeholder.Cut

namespace CommandTemplates.Placeholder

/-- A character of an argument, behind a backslash if it is a backslash, `:` or `}`. -/
def encodeCharacter (c : Char) : List Char :=
  if c = '\\' ∨ c = ':' ∨ c = '}' then ['\\', c] else [c]

/-- An argument as it is written. -/
def encodeArgument (argument : String) : String :=
  String.ofList (argument.toList.flatMap encodeCharacter)

/-- A placeholder as it is written. -/
def encode (escaped : Bool) (name : String) (arguments : List String) : String :=
  "\x7b\x7b" ++ (if escaped then "!" else "") ++ name ++
    String.join (arguments.map fun argument => ":" ++ encodeArgument argument) ++ "\x7d\x7d"

/-! ### The derivation of what is written -/

/-- The unit that a character is written as. -/
def unitOf (c : Char) : ArgumentUnit :=
  if c = '\\' ∨ c = ':' ∨ c = '}' then .pair c else .single c

theorem written_unitOf (c : Char) : (unitOf c).written = encodeCharacter c := by
  unfold unitOf encodeCharacter
  split <;> rfl

theorem meaning_unitOf (c : Char) : (unitOf c).meaning = c := by
  unfold unitOf
  split <;> rfl

/-- A character that is written by itself fits before every text. -/
theorem fits_unitOf (c : Char) (after : List Char) : (unitOf c).Fits after := by
  unfold unitOf
  split
  · next h =>
    rcases h with rfl | rfl | rfl
    · exact .inr (.inr rfl)
    · exact .inl rfl
    · exact .inr (.inl rfl)
  · next h =>
    simp only [not_or] at h
    exact ⟨h.2.1, fun hclose => h.2.2 hclose.1, fun hpair => h.1 hpair.1⟩

theorem unitsFit_map_unitOf (cs after : List Char) : UnitsFit (cs.map unitOf) after := by
  induction cs with
  | nil => trivial
  | cons c cs ih => exact ⟨fits_unitOf c _, ih⟩

/-- The units that arguments are written as. -/
def unitsOf (arguments : List String) : List (List ArgumentUnit) :=
  arguments.map fun argument => argument.toList.map unitOf

theorem argumentsFit_unitsOf (arguments : List String) : ArgumentsFit (unitsOf arguments) := by
  induction arguments with
  | nil => trivial
  | cons argument arguments ih => exact ⟨unitsFit_map_unitOf argument.toList _, ih⟩

theorem meanings_unitsOf (arguments : List String) :
    (meanings (unitsOf arguments)).map String.ofList = arguments := by
  induction arguments with
  | nil => rfl
  | cons argument arguments ih =>
    have hunits : (argument.toList.map unitOf).map ArgumentUnit.meaning = argument.toList := by
      rw [List.map_map]
      exact List.map_id'' meaning_unitOf _
    simp only [meanings, unitsOf, List.map_cons, hunits, String.ofList_toList] at ih ⊢
    rw [ih]

theorem writtenUnits_map_unitOf (argument : String) :
    writtenUnits (argument.toList.map unitOf) = (encodeArgument argument).toList := by
  simp [writtenUnits, encodeArgument, List.flatMap_map, written_unitOf]

theorem writtenArguments_unitsOf (arguments : List String) :
    writtenArguments (unitsOf arguments) =
      (String.join (arguments.map fun argument => ":" ++ encodeArgument argument)).toList ++
        ['}', '}'] := by
  induction arguments with
  | nil => rfl
  | cons argument arguments ih =>
    rw [unitsOf, List.map_cons, ← unitsOf, writtenArguments, writtenUnits_map_unitOf, ih]
    simp

/-- The derivation of a written placeholder. -/
def encoding (escaped : Bool) {name : String} (arguments : List String) (hname : name ≠ "")
    (hcharacters : ∀ c ∈ name.toList, Text.isNameCharacter c = true) : Derivation where
  escaped := escaped
  name := name.toList
  arguments := unitsOf arguments
  name_ne_nil := by simpa using hname
  name_characters := hcharacters
  arguments_fit := argumentsFit_unitsOf arguments

theorem toList_encode (escaped : Bool) {name : String} (arguments : List String)
    (hname : name ≠ "") (hcharacters : ∀ c ∈ name.toList, Text.isNameCharacter c = true) :
    (encode escaped name arguments).toList =
      (encoding escaped arguments hname hcharacters).written := by
  simp only [encode, encoding, Derivation.written, opening, writtenArguments_unitsOf]
  cases escaped <;> simp

/-! ### Reading it back -/

/-- Three braces do not begin a placeholder, even if the last two do. -/
theorem not_beginsWord_three_braces (rest : List Char) :
    ¬ BeginsWord ('{' :: '{' :: '{' :: rest) := by
  rw [beginsWord_iff_read 0]
  have hbrace : Text.isNameCharacter '{' = false := isNameCharacter_punctuation.1
  simp [read, readMark, hbrace]

/-- No placeholder begins in a text without doubled braces, also where its end meets the braces
of a placeholder. -/
theorem noWordIn_of_no_braces {before : List Char} (h : ¬ ['{', '{'] <:+: before)
    (d : Derivation) (rest : List Char) : NoWordIn before (d.written ++ rest) := by
  rintro t ht hne ⟨e, after, heq⟩
  obtain ⟨c, t, rfl⟩ := List.exists_cons_of_ne_nil hne
  -- a word takes two braces: both from the text before, or one from there and one from the
  -- placeholder, which then has three in a row
  cases t with
  | nil =>
    have hc : c = '{' := by
      simp only [Derivation.written, opening, List.cons_append, List.cons.injEq] at heq
      exact heq.1
    subst hc
    exact not_beginsWord_three_braces _ ⟨e, after, heq⟩
  | cons c' t =>
    simp only [Derivation.written, opening, List.cons_append, List.cons.injEq] at heq
    obtain ⟨rfl, rfl, -⟩ := heq
    exact h ((List.prefix_append ['{', '{'] t).isInfix.trans ht.isInfix)

/-- A written placeholder is read back with its flag, name and arguments, between any text without
doubled braces before it and any text behind it. -/
theorem scan_encode (escaped : Bool) (name : String) (arguments : List String)
    (before after : String) (hname : name ≠ "")
    (hcharacters : ∀ c ∈ name.toList, Text.isNameCharacter c = true)
    (hbefore : ¬ ['{', '{'] <:+: before.toList) :
    scan (before ++ encode escaped name arguments ++ after) =
      { escaped := escaped
        name := name
        arguments := arguments
        span := ⟨Utf8.byteLength before.toList, Utf8.byteLength before.toList +
          Utf8.byteLength (encode escaped name arguments).toList⟩
        source := encode escaped name arguments } ::
      (scan after).map (·.shift (Utf8.byteLength before.toList +
        Utf8.byteLength (encode escaped name arguments).toList)) := by
  let d := encoding escaped arguments hname hcharacters
  have hwritten : (encode escaped name arguments).toList = d.written :=
    toList_encode escaped arguments hname hcharacters
  -- the text is cut before a word of the grammar and behind it
  have htext : (before ++ encode escaped name arguments ++ after).toList =
      before.toList ++ (d.written ++ after.toList) := by
    rw [String.toList_append, String.toList_append, hwritten, List.append_assoc]
  have hfirst : d.placeholder (Utf8.byteLength before.toList) =
      { escaped := escaped
        name := name
        arguments := arguments
        span := ⟨Utf8.byteLength before.toList, Utf8.byteLength before.toList +
          Utf8.byteLength d.written⟩
        source := encode escaped name arguments } := by
    rw [Derivation.placeholder, ← hwritten, String.ofList_toList]
    simp only [d, encoding, meanings_unitsOf, String.ofList_toList]
  rw [scan, cut, htext, cutFrom_of_word (noWordIn_of_no_braces hbefore d after.toList), hwritten,
    ← hfirst, Nat.zero_add, List.map_cons, map_cutFrom_eq_scan]

theorem scan_encode_amid_braces :
    "a" ≠ "" ∧ (∀ c ∈ "a".toList, Text.isNameCharacter c = true) ∧
      ¬ ['{', '{'] <:+: "x\x7b".toList ∧
      scan ("x\x7b" ++ encode true "a" ["\x7d", "", "é\x7b\x7b:\\"] ++
          "\x7d\x7d\x7b\x7bb\x7d\x7d") =
        [⟨true, "a", ["\x7d", "", "é\x7b\x7b:\\"], ⟨2, 21⟩,
          "\x7b\x7b!a:\\\x7d::é\x7b\x7b\\:\\\\\x7d\x7d"⟩,
         ⟨false, "b", [], ⟨23, 28⟩, "\x7b\x7bb\x7d\x7d"⟩] := by
  have hcharacters : ∀ c ∈ "a".toList, Text.isNameCharacter c = true := by
    intro c hc
    obtain rfl : c = 'a' := by simpa using hc
    decide
  have hbefore : ¬ ['{', '{'] <:+: "x\x7b".toList := by decide +kernel
  refine ⟨by decide, hcharacters, hbefore, ?_⟩
  have hencode : encode true "a" ["\x7d", "", "é\x7b\x7b:\\"] =
      "\x7b\x7b!a:\\\x7d::é\x7b\x7b\\:\\\\\x7d\x7d" := by decide +kernel
  -- the text behind it is scanned by itself; its spans are shifted
  have hafter : scan "\x7d\x7d\x7b\x7bb\x7d\x7d" =
      [⟨false, "b", [], ⟨2, 7⟩, "\x7b\x7bb\x7d\x7d"⟩] := by decide +kernel
  rw [scan_encode true "a" ["\x7d", "", "é\x7b\x7b:\\"] "x\x7b" "\x7d\x7d\x7b\x7bb\x7d\x7d"
    (by decide) hcharacters hbefore, hencode, hafter]
  rfl

end CommandTemplates.Placeholder
