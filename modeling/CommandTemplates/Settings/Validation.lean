/-
Rules between the parts of settings.

Ids are unique among commands, custom variables and prompts, events are named by
known codes, and prompts ask for configured variables.  `validate` reports the
first violation: it goes through the commands, each with its events in the order
of their codes, then the custom variables, then the prompts with their fields.
-/
import CommandTemplates.Settings.Basic

namespace CommandTemplates

/-- Why settings cannot be used. -/
inductive SettingsError where
  /-- The file cannot be read. -/
  | unreadable (path reason : String)
  /-- The text is no settings document. -/
  | malformed
  | duplicateCommand (id : CommandId)
  | duplicatePrompt (id : PromptId)
  | duplicateVariable (id : VariableId)
  | unknownTarget (prompt : PromptId) (target : VariableId)
  | unknownEvent (command : CommandId) (code : String)
  deriving DecidableEq, Repr

/-- The wording of a settings error. -/
def SettingsError.message : SettingsError → String
  | .unreadable path reason => s!"failed to read {path}: {reason}"
  | .malformed => "invalid settings: not a settings document"
  | .duplicateCommand id => s!"duplicate shell command id: {id}"
  | .duplicatePrompt id => s!"duplicate prompt id: {id}"
  | .duplicateVariable id => s!"duplicate custom variable id: {id}"
  | .unknownTarget prompt target => s!"prompt {prompt} targets unknown custom variable {target}"
  | .unknownEvent command code => s!"shell command {command} enables unknown event: {code}"

namespace Settings

/-- The first event code of a command that names no kind of event. -/
def unknownCode? (command : CommandConfig) : Option String :=
  command.events.keys.find? fun code => (EventKind.ofCode? code).isNone

/-- The first violation among commands, where `seen` are the ids before them. -/
def commandViolation? (seen : List CommandId) : List CommandConfig → Option SettingsError
  | [] => none
  | c :: rest =>
    if c.id ∈ seen then some (.duplicateCommand c.id)
    else
      match unknownCode? c with
      | some code => some (.unknownEvent c.id code)
      | none => commandViolation? (c.id :: seen) rest

/-- The first violation among custom variables, where `seen` are the ids before them. -/
def variableViolation? (seen : List VariableId) : List CustomVariable → Option SettingsError
  | [] => none
  | v :: rest =>
    if v.id ∈ seen then some (.duplicateVariable v.id) else variableViolation? (v.id :: seen) rest

/-- The first violation among prompts, where `targets` are the ids of the custom variables and
`seen` the ids of the prompts before them. -/
def promptViolation? (targets : List VariableId) (seen : List PromptId) :
    List PromptConfig → Option SettingsError
  | [] => none
  | p :: rest =>
    if p.id ∈ seen then some (.duplicatePrompt p.id)
    else
      match p.fields.find? fun field => field.target ∉ targets with
      | some field => some (.unknownTarget p.id field.target)
      | none => promptViolation? targets (p.id :: seen) rest

/-- The first violation of a rule. -/
def violation? (s : Settings) : Option SettingsError :=
  (commandViolation? [] s.commands).or <|
    (variableViolation? [] s.customVariables).or <|
      promptViolation? (s.customVariables.map (·.id)) [] s.prompts

/-- Checks the rules between the parts of settings. -/
def validate (s : Settings) : Except SettingsError Unit :=
  match s.violation? with
  | some e => .error e
  | none => .ok ()

end Settings

end CommandTemplates
