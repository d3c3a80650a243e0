/-
Placeholders seen from one pass of an expansion.

The pass has the variables that are `available` in it among all that are `known`
to some pass.  `classify` decides what a placeholder is for the pass: text to be
unescaped, a variable with its arguments, a mistake, or — if its variable is
known but not available — nothing yet.
-/
import CommandTemplates.Placeholder
import CommandTemplates.Variable.Set

namespace CommandTemplates

/-- What is wrong with a placeholder. -/
inductive PlaceholderFault where
  | unknownVariable (name : String)
  | arguments (e : ArgumentError)
  deriving DecidableEq, Repr

/-- The wording of a fault. -/
def PlaceholderFault.message : PlaceholderFault → String
  | .unknownVariable name => s!"unknown variable '{name}'"
  | .arguments e => e.message

/-- A placeholder that cannot be expanded, with the place where it stands. -/
structure PlaceholderError where
  text : String
  span : Span
  fault : PlaceholderFault
  deriving DecidableEq, Repr

namespace PlaceholderError

/-- The wording of the error. -/
def message (e : PlaceholderError) : String :=
  s!"{e.text} at position {e.span.start}: {e.fault.message}"

/-- The same error in a text with `n` more bytes before it. -/
def shift (e : PlaceholderError) (n : Nat) : PlaceholderError := { e with span := e.span.shift n }

end PlaceholderError

/-- What a placeholder is for one pass. -/
inductive Token where
  /-- A variable that is available, with arguments that suit it. -/
  | value (p : Placeholder) (v : Variable) (arguments : Arguments)
  /-- Text that stands for a placeholder. -/
  | escaped (p : Placeholder)
  /-- A mistake. -/
  | rejected (e : PlaceholderError)

namespace Token

/-- The range of the token's placeholder. -/
def span : Token → Span
  | .value p _ _ | .escaped p => p.span
  | .rejected e => e.span

/-- What a placeholder is for a pass; `none` if it is left to a later pass. -/
def classify (available known : VariableSet) (p : Placeholder) : Option Token :=
  if p.escaped then some (.escaped p)
  else
    match available.get? p.name with
    | some v =>
      match Arguments.bind p.name v.parameters p.arguments with
      | .ok arguments => some (.value p v arguments)
      | .error e => some (.rejected ⟨p.source, p.span, .arguments e⟩)
    | none =>
      if known.contains p.name then none
      else some (.rejected ⟨p.source, p.span, .unknownVariable p.name⟩)

/-- The tokens of a text for a pass, from left to right. -/
def ofText (text : String) (available known : VariableSet) : List Token :=
  (Placeholder.scan text).filterMap (classify available known)

end Token

end CommandTemplates
