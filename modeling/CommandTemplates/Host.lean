/-
The host: settings in use, with the registry, the values and the commands.

Edits go through the host, which keeps its parts in step: the settings hold the
records of the registry and the configurations of the commands, and no command
remembers preactions that a change of the variables has made stale.
-/
import CommandTemplates.Command
import CommandTemplates.Settings.Validation

namespace CommandTemplates

/-- Why a host cannot be opened or edited. -/
inductive HostError where
  | settings (e : SettingsError)
  | customVariable (e : CustomVariableError)
  | commandNotFound (id : CommandId)
  deriving DecidableEq, Repr

/-- The wording of a host error. -/
def HostError.message : HostError → String
  | .settings e => e.message
  | .customVariable e => e.message
  | .commandNotFound id => s!"shell command not found: {id}"

/-- Settings in use. -/
structure Host where
  settings : Settings
  registry : Registry
  environment : Environment
  values : ValueStore := .empty
  commands : List Command

namespace Host

/-- The host of settings that keep the rules. -/
def ofSettings (settings : Settings) (environment : Environment) : Except HostError Host := do
  settings.validate.mapError HostError.settings
  let registry ← (Registry.load settings.customVariables).mapError HostError.customVariable
  return {
    settings, registry, environment
    commands := settings.commands.map fun config => { config } }

/-- The context of a command that an event triggered. -/
def context (h : Host) (event : Option Event) : Context := ⟨h.environment, h.values, event⟩

/-- The command with an id. -/
def command? (h : Host) (id : CommandId) : Option Command := h.commands.find? fun c => c.id = id

/-- The command with an id, or an error. -/
def requireCommand (h : Host) (id : CommandId) : Except HostError Command :=
  match h.command? id with
  | some c => .ok c
  | none => .error (.commandNotFound id)

/-- Changes the first command with an id. -/
def updateCommand (id : CommandId) (f : Command → Command) : List Command → List Command
  | [] => []
  | c :: rest => if c.id = id then f c :: rest else c :: updateCommand id f rest

/-- Replaces the first configuration with an id. -/
def replaceConfig (id : CommandId) (config : CommandConfig) :
    List CommandConfig → List CommandConfig
  | [] => []
  | c :: rest => if c.id = id then config :: rest else c :: replaceConfig id config rest

/-- The host after the preactions of a command were asked for. -/
def rememberPreactions (h : Host) (id : CommandId) : Host :=
  { h with commands := updateCommand id (·.remember h.settings h.registry) h.commands }

/-- Edits a command, in the host and in its settings. -/
def editCommand (h : Host) (id : CommandId) (edit : Command → Command) :
    Except HostError Host := do
  let edited := edit (← h.requireCommand id)
  return { h with
    commands := updateCommand id (fun _ => edited) h.commands
    settings :=
      { h.settings with commands := replaceConfig id edited.config h.settings.commands } }

/-- The host with another registry, which its settings take over; the commands forget their
preactions, whose variables may have changed. -/
def withRegistry (h : Host) (registry : Registry) : Host :=
  { h with
    registry
    settings := { h.settings with customVariables := registry.custom }
    commands := h.commands.map (·.forget) }

/-- Adds a custom variable under a fresh id. -/
def createVariable (h : Host) (freshId : VariableId) : CustomVariable × Host :=
  let (record, registry) := h.registry.create freshId
  (record, h.withRegistry registry)

/-- Gives a custom variable a new name. -/
def renameVariable (h : Host) (id : VariableId) (name : String) : Except HostError Host := do
  let registry ← (h.registry.rename id name).mapError HostError.customVariable
  return h.withRegistry registry

/-- Gives a custom variable a new description. -/
def describeVariable (h : Host) (id : VariableId) (description : String) :
    Except HostError Host := do
  let registry ← (h.registry.describe id description).mapError HostError.customVariable
  return h.withRegistry registry

/-- The prompts without the fields that ask for a variable. -/
def dropTarget (id : VariableId) (prompts : List PromptConfig) : List PromptConfig :=
  prompts.map fun p => { p with fields := p.fields.filter fun field => field.target ≠ id }

/-- Takes out a custom variable with its value and the prompt fields that ask for it. -/
def deleteVariable (h : Host) (id : VariableId) : Except HostError (CustomVariable × Host) := do
  let (record, registry) ← (h.registry.delete id).mapError HostError.customVariable
  let settings := { h.settings with prompts := dropTarget id h.settings.prompts }
  return (record, { h with settings, values := h.values.erase id }.withRegistry registry)

/-- Gives a custom variable a value. -/
def setValue (h : Host) (id : VariableId) (value : String) : Host :=
  { h with values := h.values.insert id value }

/-- The title of a command with variables expanded where that works, and the host after it. -/
def preview (h : Host) (c : Command) : String × Host :=
  (c.preview h.settings h.registry (h.context none), h.rememberPreactions c.id)

end Host

end CommandTemplates
