/-
Settings: the shells, custom variables, prompts and commands of a user.

Everything here is as configured.  What a command shows for another platform,
and which shell it uses, is looked up with the defaults that stand in for what
is not configured (`PerPlatform.get?`, `CommandText.forPlatform`,
`Settings.defaultShell`).
-/
import CommandTemplates.Data.SortedMap
import CommandTemplates.Data.Value
import CommandTemplates.Platform
import CommandTemplates.Variable.Fallback
import CommandTemplates.Variable.Registry

namespace CommandTemplates

/-- The lasting name of a command. -/
abbrev CommandId := String

/-- The lasting name of a prompt. -/
abbrev PromptId := String

/-- A text for some of the platforms. -/
structure PerPlatform where
  linux : Option String := none
  macos : Option String := none
  windows : Option String := none
  deriving DecidableEq, Repr

/-- The text for a platform. -/
def PerPlatform.get? (texts : PerPlatform) : Platform → Option String
  | .linux => texts.linux
  | .macos => texts.macos
  | .windows => texts.windows

/-- The text of a command: one for all platforms, and others in its place for some. -/
structure CommandText where
  default : String
  specific : PerPlatform := {}
  deriving DecidableEq, Repr

/-- The text for a platform. -/
def CommandText.forPlatform (text : CommandText) (platform : Platform) : String :=
  (text.specific.get? platform).getD text.default

/-- What a command does about one kind of event. -/
structure EventConfig where
  enabled : Bool := false
  /-- Further settings, kept as they are. -/
  extras : SortedMap Value := .empty

/-- Steps that can run before the second pass of an expansion. -/
inductive PreactionKind where
  /-- Shows the prompt with an id. -/
  | prompt (id : PromptId)
  deriving DecidableEq, Repr

/-- A configured step. -/
structure PreactionConfig where
  enabled : Bool := true
  kind : PreactionKind
  deriving DecidableEq, Repr

/-- A configured command. -/
structure CommandConfig where
  id : CommandId
  command : CommandText
  /-- The title; empty if the command is its own title. -/
  title : String := ""
  shells : PerPlatform := {}
  confirmExecution : Bool := false
  ignoreErrorCodes : List Int := []
  preactions : List PreactionConfig := []
  /-- Event settings by the code of the kind of event. -/
  events : SortedMap EventConfig := .empty
  /-- What stands in for variables that fail, by identifier. -/
  fallbacks : SortedMap Fallback := .empty

/-- One question of a prompt. -/
structure PromptField where
  label : String
  description : String := ""
  defaultValue : String := ""
  /-- The custom variable that the answer is stored for. -/
  target : VariableId
  required : Bool := false
  deriving DecidableEq, Repr

/-- Questions whose answers become values of custom variables. -/
structure PromptConfig where
  id : PromptId
  title : String
  description : String := ""
  fields : List PromptField := []
  deriving DecidableEq, Repr

/-- All that is configured. -/
structure Settings where
  defaultShells : PerPlatform := {}
  customVariables : List CustomVariable := []
  prompts : List PromptConfig := []
  commands : List CommandConfig := []

namespace Settings

/-- The command with an id. -/
def command? (s : Settings) (id : CommandId) : Option CommandConfig :=
  s.commands.find? fun c => c.id = id

/-- The prompt with an id. -/
def prompt? (s : Settings) (id : PromptId) : Option PromptConfig :=
  s.prompts.find? fun p => p.id = id

/-- The shell for commands that name none. -/
def defaultShell (s : Settings) (platform : Platform) : String :=
  (s.defaultShells.get? platform).getD platform.fallbackShell

end Settings

end CommandTemplates
