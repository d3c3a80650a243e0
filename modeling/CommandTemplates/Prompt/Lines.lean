/-
Prompts answered by lines of text.

The title, the description and a label for each field are shown; each field
takes one line, without its end and the carriage returns before it.  An empty
line stands for the default of the field, and the end of the input cancels the
prompt.  A line that is not UTF-8 is an error of the channel, which counts the
bytes of the line without its end.
-/
import CommandTemplates.Prompt.Channel
import CommandTemplates.Text.Utf8

namespace CommandTemplates

/-- Where lines come from and where questions are shown. -/
structure Terminal (m : Type → Type) where
  /-- The next line with its end, or `none` after the last. -/
  readLine : m (Option (List UInt8))
  display : String → m Unit

namespace Terminal

/-- A line without its end: a line feed, or a carriage return and a line feed.  The last line may
have none, and a carriage return alone is no end. -/
def withoutEnd (line : List UInt8) : List UInt8 :=
  match line.reverse with
  | 10 :: 13 :: rest | 10 :: rest => rest.reverse
  | _ => line

/-- The answer that a line without its end gives to a field. -/
def answer (field : PromptField) (line : String) : String :=
  let text := String.ofList (line.toList.reverse.dropWhile (· = '\r')).reverse
  if text = "" then field.defaultValue else text

/-- What is shown before a line is read. -/
def label (field : PromptField) : String :=
  if field.defaultValue = "" then field.label ++ ": "
  else field.label ++ " [" ++ field.defaultValue ++ "]: "

/-- Reads a line for each field. -/
def askFields {m : Type → Type} [Monad m] (t : Terminal m) : List PromptField → m PromptReply
  | [] => pure (.ok (some []))
  | field :: rest => do
    t.display (label field)
    match ← t.readLine with
    | none =>
      t.display "\n"
      pure (.ok none)
    | some bytes =>
      match Utf8.decode (withoutEnd bytes) with
      | .error e => pure (.error (.io e.message))
      | .ok line => do
        match ← t.askFields rest with
        | .ok (some answers) => pure (.ok (some (answer field line :: answers)))
        | reply => pure reply

/-- The channel that puts prompts to a terminal. -/
def channel {m : Type → Type} [Monad m] (t : Terminal m) : PromptChannel m where
  ask prompt := do
    t.display (prompt.title ++ "\n")
    if prompt.description ≠ "" then t.display (prompt.description ++ "\n")
    t.askFields prompt.fields

end Terminal

/-- A terminal session on given input: what is left of the input, and all that was shown. -/
structure Transcript where
  input : List UInt8
  shown : String := ""

namespace Transcript

/-- The first line of some bytes, with its end, and the bytes after it. -/
def takeLine? : List UInt8 → Option (List UInt8 × List UInt8)
  | [] => none
  | b :: rest =>
    if b = 10 then some ([b], rest)
    else
      match takeLine? rest with
      | some (line, after) => some (b :: line, after)
      | none => some ([b], [])

/-- The terminal of a session. -/
def terminal : Terminal (StateM Transcript) where
  readLine := fun s =>
    match takeLine? s.input with
    | some (line, rest) => (some line, { s with input := rest })
    | none => (none, s)
  display text := fun s => ((), { s with shown := s.shown ++ text })

end Transcript

end CommandTemplates
