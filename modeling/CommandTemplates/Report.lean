/-
Reports of a preparation: what is printed, and with which code and message the
program ends.
-/
import CommandTemplates.Data.Json
import CommandTemplates.Preparation
import CommandTemplates.Settings.Encode

namespace CommandTemplates

/-- How results are printed. -/
inductive OutputFormat where
  | text
  | json
  deriving DecidableEq, Repr

/-- Data as many lines of JSON, with a line end. -/
def jsonText (v : Value) : String := Json.pretty v ++ "\n"

/-- An end of the program other than success. -/
structure Exit where
  code : Nat
  /-- The message to show; nothing is shown if it is empty. -/
  message : String
  deriving DecidableEq, Repr

namespace Preparation

/-- A preparation as data. -/
def toValue : Preparation → Value
  | .ready p =>
    .table
      [("status", .text "ready"), ("id", .text p.id), ("shell", .text p.shell),
       ("command", .text p.command), ("alias", .text p.title),
       ("confirm_execution", .bool p.confirmExecution),
       ("ignore_error_codes", .list (p.ignoreErrorCodes.map .integer))]
  | .cancelled => .table [("status", .text "cancelled")]
  | .failed messages =>
    .table [("status", .text "failed"), ("error_messages", Encode.texts messages)]

/-- What is printed. -/
def output (format : OutputFormat) (p : Preparation) : String :=
  match format, p with
  | .json, p => jsonText p.toValue
  | .text, .ready prepared => prepared.command ++ "\n"
  | .text, _ => ""

/-- How the program ends, if not with success.  Messages are part of what JSON prints. -/
def exit? (format : OutputFormat) : Preparation → Option Exit
  | .ready _ => none
  | .cancelled => some ⟨130, if format = .text then "cancelled" else ""⟩
  | .failed messages => some ⟨1, if format = .text then String.intercalate "\n" messages else ""⟩

end Preparation

end CommandTemplates
