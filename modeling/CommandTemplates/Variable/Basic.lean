/-
Variables: named sources of text.

A variable declares what it needs — its parameters, the events it works in,
whether it reads the active file — and has a rule that makes its value.
`refusal?` checks the declarations against a context, and `resolve` asks for the
value only if nothing is refused.  `isAvailableIn` answers the same question from
the kind of event alone.
-/
import CommandTemplates.Calendar.Moment
import CommandTemplates.Event
import CommandTemplates.Parameter

namespace CommandTemplates

/-- The lasting name of a custom variable. -/
abbrev VariableId := String

/-- The values given to custom variables, by id. -/
abbrev ValueStore := Dictionary VariableId String

/-- What the surroundings tell: the workspace, the clock and the variables of the process. -/
structure Environment where
  root : Path
  activeFile : Option WorkspaceItem := none
  now : Moment
  processVariable? : String → Option String := fun _ => none

/-- All that a variable may consult. -/
structure Context where
  environment : Environment
  values : ValueStore := .empty
  /-- The event that triggered the command; `none` if it was started directly. -/
  event : Option Event := none

/-- Why a variable has no value. -/
inductive VariableError where
  | noActiveFile (variableName : String)
  | unsupportedEvent (variableName : String) (kind : Option EventKind)
  | missingSubject (variableName : String) (kind : EventKind)
  | noValue (variableName : String)
  | notSet (variableName environmentVariable : String)
  | unavailable (variableName reason : String)
  deriving DecidableEq, Repr

/-- The wording of a variable error. -/
def VariableError.message : VariableError → String
  | .noActiveFile v => s!"{braced v}: no file is currently active"
  | .unsupportedEvent v (some kind) => s!"{braced v} is not available in the {kind.code} event"
  | .unsupportedEvent v none => s!"{braced v} is only available when triggered by an event"
  | .missingSubject v kind => s!"{braced v}: the {kind.code} event did not carry a file or folder"
  | .noValue v => s!"{braced v} has not been assigned a value"
  | .notSet v name => s!"{braced v}: environment variable {name} is not set"
  | .unavailable v reason => s!"{braced v}: {reason}"

/-- A named source of text. -/
structure Variable where
  /-- The name in placeholders. -/
  name : String
  /-- The name that default values are kept under, which outlives a new name in placeholders. -/
  identifier : String := name
  description : String
  parameters : List Parameter := []
  /-- The only kinds of events that the variable works in; `none` if it needs no event. -/
  supportedEvents : Option (List EventKind) := none
  needsActiveFile : Bool := false
  /-- The value for arguments that suit the parameters. -/
  generate : Arguments → Context → Except VariableError String

namespace Variable

/-- Whether a command with the given trigger can use the variable; `none` stands for a direct
start. -/
def isAvailableIn (v : Variable) (trigger : Option EventKind) : Bool :=
  match v.supportedEvents, trigger with
  | none, _ => true
  | some kinds, some kind => kind ∈ kinds
  | some _, none => false

/-- How help shows the placeholder. -/
def usage (v : Variable) : String :=
  braced (v.name ++ String.join (v.parameters.map fun p => ":" ++ p.usage))

/-- The refusal of an event that the variable does not work in. -/
def eventRefusal? (v : Variable) (event : Option Event) : Option VariableError :=
  match v.supportedEvents, event with
  | none, _ => none
  | some kinds, some e => if e.kind ∈ kinds then none else some (.unsupportedEvent v.name e.kind)
  | some _, none => some (.unsupportedEvent v.name none)

/-- Why the context lacks something that the variable needs by its declarations. -/
def refusal? (v : Variable) (ctx : Context) : Option VariableError :=
  match v.eventRefusal? ctx.event with
  | some e => some e
  | none =>
    if v.needsActiveFile && ctx.environment.activeFile.isNone then some (.noActiveFile v.name)
    else none

/-- The value of the variable, if its declarations hold in the context. -/
def resolve (v : Variable) (arguments : Arguments) (ctx : Context) :
    Except VariableError String :=
  match v.refusal? ctx with
  | some e => .error e
  | none => v.generate arguments ctx

end Variable

end CommandTemplates
