/-
What a command shows in place of a variable that has no value.
-/
import CommandTemplates.Variable.Basic

namespace CommandTemplates

/-- What stands in for the value of a variable that fails. -/
inductive Fallback where
  /-- Nothing: the failure is reported. -/
  | showErrors
  /-- The empty text. -/
  | emptyValue
  /-- A given text. -/
  | value (text : String)
  deriving DecidableEq, Repr

/-- The value of a variable where `fallback` stands in for a failure. -/
def Fallback.apply (fallback : Option Fallback) (result : Except VariableError String) :
    Except VariableError String :=
  match result, fallback with
  | .ok text, _ => .ok text
  | .error _, some .emptyValue => .ok ""
  | .error _, some (.value text) => .ok text
  | .error e, some .showErrors | .error e, none => .error e

end CommandTemplates
