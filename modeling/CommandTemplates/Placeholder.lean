/-
Placeholders of a template and the scanner that finds them.

A placeholder is written `{{name}}`, `{{name:argument:...}}` or, escaped,
`{{!name:...}}`.  Inside an argument a backslash before `:`, `}` or a backslash
stands for that character alone; an argument ends at a bare `:` or at `}}`.
Everything else is plain text.

* `readArguments` — the arguments after the first `:`, with what follows `}}`;
* `read` — what stands at one position;
* `next?` — the leftmost placeholder, with the text before and after it;
* `cut` — a text as placeholders with the plain text before each, and the rest;
* `scan` — the placeholders alone, and `Scanner` the same one at a time.

An argument list that runs to the end of the text ends the scan: every later
`{{` would read on to the same end.
-/
import CommandTemplates.Span
import CommandTemplates.Text.Classes

namespace CommandTemplates

/-- One placeholder of a template. -/
structure Placeholder where
  /-- Whether it is written with `!` and stands for its own text. -/
  escaped : Bool
  name : String
  /-- The arguments as they are meant, without the backslashes that protect characters. -/
  arguments : List String
  span : Span
  /-- The placeholder as it is written. -/
  source : String
  deriving DecidableEq, Repr

namespace Placeholder

/-- Characters that a backslash protects inside an argument. -/
def isProtected (c : Char) : Bool := c == ':' || c == '}' || c == '\\'

/-- Adds a character to the front of the first argument. -/
def pushFront (c : Char) : List (List Char) → List (List Char)
  | [] => [[c]]
  | a :: rest => (c :: a) :: rest

/-- Reads arguments up to `}}` from a position inside the first of them; `none` if the text ends
before that. -/
def readArguments : List Char → Option (List (List Char) × List Char)
  | [] => none
  | '}' :: '}' :: rest => some ([[]], rest)
  | ':' :: rest => (readArguments rest).map fun (as, r) => ([] :: as, r)
  | '\\' :: c :: rest =>
    if isProtected c then (readArguments rest).map fun (as, r) => (pushFront c as, r)
    else (readArguments (c :: rest)).map fun (as, r) => (pushFront '\\' as, r)
  | c :: rest => (readArguments rest).map fun (as, r) => (pushFront c as, r)

/-- What stands at a position of a text. -/
inductive Attempt where
  /-- No placeholder. -/
  | absent
  /-- A placeholder whose arguments run to the end of the text. -/
  | unterminated
  /-- A placeholder, and the text after it. -/
  | found (placeholder : Placeholder) (rest : List Char)

/-- The escape mark and what follows it. -/
def readMark : List Char → Bool × List Char
  | '!' :: rest => (true, rest)
  | cs => (false, cs)

/-- What follows a name: the arguments, none if there is no `:`, and the text after `}}`. -/
inductive Ending where
  | broken
  | unterminated
  | closed (arguments : List (List Char)) (rest : List Char)

/-- Reads what follows a name. -/
def readEnding : List Char → Ending
  | '}' :: '}' :: rest => .closed [] rest
  | ':' :: cs =>
    match readArguments cs with
    | some (arguments, rest) => .closed arguments rest
    | none => .unterminated
  | _ => .broken

/-- What stands at byte `position` of a text, where `cs` is the text from there on. -/
def read (position : Nat) (cs : List Char) : Attempt :=
  match cs with
  | '{' :: '{' :: inside =>
    let (escaped, named) := readMark inside
    let name := named.takeWhile Text.isNameCharacter
    if name = [] then .absent
    else
      match readEnding (named.dropWhile Text.isNameCharacter) with
      | .broken => .absent
      | .unterminated => .unterminated
      | .closed arguments rest =>
        let source := cs.take (cs.length - rest.length)
        .found
          { escaped
            name := String.ofList name
            arguments := arguments.map String.ofList
            span := ⟨position, position + Utf8.byteLength source⟩
            source := String.ofList source }
          rest
  | _ => .absent

theorem length_readMark (cs : List Char) : (readMark cs).2.length ≤ cs.length := by
  unfold readMark
  split <;> simp

theorem length_of_readArguments {cs : List Char} {arguments : List (List Char)}
    {rest : List Char} (h : readArguments cs = some (arguments, rest)) :
    rest.length < cs.length := by
  fun_induction readArguments cs generalizing arguments rest <;>
    simp_all [Option.map_eq_some_iff] <;> grind

theorem length_of_readEnding {cs : List Char} {arguments : List (List Char)} {rest : List Char}
    (h : readEnding cs = .closed arguments rest) : rest.length < cs.length := by
  unfold readEnding at h
  split at h
  · simp only [Ending.closed.injEq] at h
    simp only [List.length_cons, ← h.2]
    omega
  · split at h
    · next ha =>
      simp only [Ending.closed.injEq] at h
      have := length_of_readArguments ha
      simp only [List.length_cons, ← h.2]
      omega
    · simp at h
  · simp at h

theorem length_of_read {position : Nat} {cs : List Char} {p : Placeholder} {rest : List Char}
    (h : read position cs = .found p rest) : rest.length < cs.length := by
  unfold read at h
  split at h
  · next inside =>
    dsimp only at h
    split at h
    · simp at h
    · split at h
      · simp at h
      · simp at h
      · next he =>
        simp only [Attempt.found.injEq] at h
        have h1 := length_of_readEnding he
        have h2 : ((readMark inside).2.dropWhile Text.isNameCharacter).length ≤
            (readMark inside).2.length := (List.dropWhile_sublist _).length_le
        have h3 := length_readMark inside
        rw [← h.2]
        simp only [List.length_cons]
        omega
  · simp at h

/-- The leftmost placeholder of a text that starts at byte `position`, between the text before it
and the text after it. -/
def next? (position : Nat) : List Char → Option (List Char × Placeholder × List Char)
  | [] => none
  | c :: cs =>
    match read position (c :: cs) with
    | .found p rest => some ([], p, rest)
    | .unterminated => none
    | .absent =>
      (next? (position + c.utf8Size) cs).map fun (before, p, rest) => (c :: before, p, rest)

theorem length_of_next? {position : Nat} {cs before rest : List Char} {p : Placeholder}
    (h : next? position cs = some (before, p, rest)) : rest.length < cs.length := by
  induction cs generalizing position before p rest with
  | nil => simp [next?] at h
  | cons c cs ih =>
    unfold next? at h
    split at h
    · next hr =>
      simp only [Option.some.injEq, Prod.mk.injEq] at h
      rw [← h.2.2]
      exact length_of_read hr
    · simp at h
    · obtain ⟨⟨b, q, r⟩, hn, he⟩ := Option.map_eq_some_iff.1 h
      simp only [Prod.mk.injEq] at he
      have := ih hn
      simp only [List.length_cons, ← he.2.2]
      omega

/-- A text that starts at byte `position`, as placeholders with the plain text before each, and
the plain text after the last. -/
def cutFrom (position : Nat) (cs : List Char) : List (List Char × Placeholder) × List Char :=
  match _h : next? position cs with
  | none => ([], cs)
  | some (before, p, rest) =>
    let (pieces, tail) := cutFrom p.span.stop rest
    ((before, p) :: pieces, tail)
termination_by cs.length
decreasing_by exact length_of_next? ‹_›

/-- A text as placeholders with the plain text before each, and the plain text after the last. -/
def cut (text : String) : List (List Char × Placeholder) × List Char := cutFrom 0 text.toList

/-- The placeholders of a text, from left to right. -/
def scan (text : String) : List Placeholder := (cut text).1.map Prod.snd

/-- The placeholder as it would be written without its escape mark. -/
def unescaped (p : Placeholder) : String :=
  match p.escaped, p.source.toList with
  | true, '{' :: '{' :: '!' :: rest => String.ofList ('{' :: '{' :: rest)
  | _, _ => p.source

end Placeholder

/-- A scan in progress: the text still to be read and the byte offset where it starts. -/
structure Scanner where
  position : Nat
  rest : List Char

namespace Scanner

/-- The scan of a text, before its first placeholder. -/
def start (text : String) : Scanner := ⟨0, text.toList⟩

/-- The next placeholder and the scan after it; without one, the scan is over. -/
def next (s : Scanner) : Option Placeholder × Scanner :=
  match Placeholder.next? s.position s.rest with
  | some (_, p, rest) => (some p, ⟨p.span.stop, rest⟩)
  | none => (none, ⟨s.position + Utf8.byteLength s.rest, []⟩)

/-- The scan after `n` calls of `next`. -/
def advance : Nat → Scanner → Scanner
  | 0, s => s
  | n + 1, s => advance n s.next.2

/-- The placeholders still to come. -/
def toList (s : Scanner) : List Placeholder :=
  (Placeholder.cutFrom s.position s.rest).1.map Prod.snd

/-- The scan after its last placeholder. -/
def finish (s : Scanner) : Scanner := ⟨s.position + Utf8.byteLength s.rest, []⟩

end Scanner

end CommandTemplates
