/-
Settings as data.

Every field of a record is written, but for texts per platform that are not
there; the further settings of an event stand beside its switch.
-/
import CommandTemplates.Settings.Basic

namespace CommandTemplates.Encode

/-- A list of texts. -/
def texts (items : List String) : Value := .list (items.map .text)

/-- An entry for a text that is there. -/
def optionalText (key : String) (text : Option String) : List (String × Value) :=
  match text with
  | some s => [(key, .text s)]
  | none => []

/-- The entries of texts per platform. -/
def platformEntries (texts : PerPlatform) : List (String × Value) :=
  optionalText "linux" texts.linux ++ optionalText "macos" texts.macos ++
    optionalText "windows" texts.windows

/-- Texts per platform. -/
def perPlatform (texts : PerPlatform) : Value := .table (platformEntries texts)

/-- The text of a command. -/
def commandText (text : CommandText) : Value :=
  .table (("default", .text text.default) :: platformEntries text.specific)

/-- The settings of an event. -/
def event (config : EventConfig) : Value :=
  .table (("enabled", .bool config.enabled) :: config.extras.entries)

/-- A preaction. -/
def preaction (config : PreactionConfig) : Value :=
  match config.kind with
  | .prompt id =>
    .table [("enabled", .bool config.enabled), ("type", .text "prompt"), ("prompt_id", .text id)]

/-- What stands in for a variable. -/
def fallback : Fallback → Value
  | .showErrors => .table [("type", .text "show-errors")]
  | .emptyValue => .table [("type", .text "empty-value")]
  | .value text => .table [("type", .text "value"), ("value", .text text)]

/-- A map from texts. -/
def map {α : Type} (f : α → Value) (m : SortedMap α) : Value :=
  .table (m.entries.map fun (key, v) => (key, f v))

/-- A command. -/
def command (config : CommandConfig) : Value :=
  .table
    [("id", .text config.id),
     ("command", commandText config.command),
     ("alias", .text config.title),
     ("shells", perPlatform config.shells),
     ("confirm_execution", .bool config.confirmExecution),
     ("ignore_error_codes", .list (config.ignoreErrorCodes.map .integer)),
     ("preactions", .list (config.preactions.map preaction)),
     ("events", map event config.events),
     ("variable_default_values", map fallback config.fallbacks)]

/-- A custom variable. -/
def customVariable (record : CustomVariable) : Value :=
  .table
    [("id", .text record.id), ("name", .text record.name),
     ("description", .text record.description)]

/-- A question of a prompt. -/
def promptField (field : PromptField) : Value :=
  .table
    [("label", .text field.label),
     ("description", .text field.description),
     ("default_value", .text field.defaultValue),
     ("target_variable", .text field.target),
     ("required", .bool field.required)]

/-- A prompt. -/
def prompt (config : PromptConfig) : Value :=
  .table
    [("id", .text config.id),
     ("title", .text config.title),
     ("description", .text config.description),
     ("fields", .list (config.fields.map promptField))]

/-- Settings. -/
def settings (s : Settings) : Value :=
  .table
    [("default_shells", perPlatform s.defaultShells),
     ("custom_variables", .list (s.customVariables.map customVariable)),
     ("prompts", .list (s.prompts.map prompt)),
     ("shell_commands", .list (s.commands.map command))]

end CommandTemplates.Encode
