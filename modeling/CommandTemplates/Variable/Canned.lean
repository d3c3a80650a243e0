/-
Variables with a value prepared in advance, to try templates out with.
-/
import CommandTemplates.Variable.Basic

namespace CommandTemplates

/-- A variable with the given value, or that fails without one.  If it has parameters, the value is
followed by the arguments bound to them. -/
def Variable.canned (name : String) (value : Option String) (parameters : List Parameter := [])
    (supportedEvents : Option (List EventKind) := none) : Variable where
  name := name
  description := "Fake variable"
  parameters := parameters
  supportedEvents := supportedEvents
  generate arguments _ :=
    match value with
    | none => .error (.unavailable name "fake failure")
    | some value =>
      if parameters = [] then .ok value
      else
        let bound := parameters.filterMap fun p => arguments.get? p.name
        .ok (value ++ "(" ++ String.intercalate "," bound ++ ")")

end CommandTemplates
