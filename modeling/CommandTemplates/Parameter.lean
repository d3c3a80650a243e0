/-
Parameters of a variable and the arguments bound to them.

Arguments are positional: the `i`-th argument of a placeholder belongs to the
`i`-th parameter.  `bind` refuses surplus arguments first and otherwise reports
the leftmost parameter that its argument, or the lack of one, does not suit.
-/
import CommandTemplates.Data.Dictionary

namespace CommandTemplates

/-- A text in doubled braces, as placeholders are written. -/
def braced (text : String) : String := "\x7b\x7b" ++ text ++ "\x7d\x7d"

/-- Texts with commas between them. -/
def commaSeparated (texts : List String) : String := String.intercalate ", " texts

/-- What a parameter accepts. -/
inductive ParameterKind where
  /-- Any text. -/
  | text
  /-- One of the listed texts. -/
  | options (allowed : List String)
  deriving DecidableEq, Repr

/-- One argument position of a variable. -/
structure Parameter where
  name : String
  kind : ParameterKind := .text
  required : Bool := true
  deriving DecidableEq, Repr

/-- How help shows the parameter: its name or its options, in brackets if it may be left out. -/
def Parameter.usage (p : Parameter) : String :=
  let body :=
    match p.kind with
    | .text => p.name
    | .options allowed => String.intercalate "|" allowed
  if p.required then body else "[" ++ body ++ "]"

/-- Whether an argument suits the parameter. -/
def Parameter.accepts (p : Parameter) (argument : String) : Bool :=
  match p.kind with
  | .text => true
  | .options allowed => argument ∈ allowed

/-- Why arguments do not suit the parameters of a variable. -/
inductive ArgumentError where
  | missing (variableName parameter : String)
  | tooMany (variableName : String) (most found : Nat)
  | invalidOption (variableName parameter value : String) (allowed : List String)
  deriving DecidableEq, Repr

/-- The wording of an argument error. -/
def ArgumentError.message : ArgumentError → String
  | .missing v parameter => s!"{braced v} requires argument '{parameter}'"
  | .tooMany v most found => s!"{braced v} accepts at most {most} argument(s), got {found}"
  | .invalidOption v parameter value allowed =>
    s!"{braced v}: '{value}' is not a valid {parameter}, expected one of: " ++
      commaSeparated allowed

/-- Argument texts by the names of their parameters. -/
abbrev Arguments := Dictionary String String

namespace Arguments

/-- Binds arguments to parameters from left to right, adding to what is bound already. -/
def bindFrom (variableName : String) (bound : Arguments) :
    List Parameter → List String → Except ArgumentError Arguments
  | [], _ => .ok bound
  | p :: ps, [] =>
    if p.required then .error (.missing variableName p.name)
    else bindFrom variableName bound ps []
  | p :: ps, a :: as =>
    match p.kind with
    | .text => bindFrom variableName (bound.insert p.name a) ps as
    | .options allowed =>
      if a ∈ allowed then bindFrom variableName (bound.insert p.name a) ps as
      else .error (.invalidOption variableName p.name a allowed)

/-- The arguments of a placeholder bound to the parameters of the variable it names. -/
def bind (variableName : String) (parameters : List Parameter) (arguments : List String) :
    Except ArgumentError Arguments :=
  if parameters.length < arguments.length then
    .error (.tooMany variableName parameters.length arguments.length)
  else bindFrom variableName .empty parameters arguments

end Arguments

end CommandTemplates
