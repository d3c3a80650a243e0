/-
Commands: configured texts with what is needed to expand them.

A command remembers its preactions once they are built; an edit that changes
them makes it forget (`forget`), and so does a change of the variables, which the
host sees to.  The variables that some preaction gives values to are expanded
in the second pass and all others in the first (`dependentVariables`,
`independentVariables`, `expansion`).
-/
import CommandTemplates.Prompt.Preaction
import CommandTemplates.Template.Expansion

namespace CommandTemplates

/-- A command. -/
structure Command where
  config : CommandConfig
  /-- The preactions, once they are built. -/
  remembered : Option (List PromptPreaction) := none

namespace Command

/-- The key of the command's text in its expansion. -/
def textKey : String := "shell_command"

/-- The key of the command's title in its expansion. -/
def titleKey : String := "alias"

/-- The lasting name. -/
def id (c : Command) : CommandId := c.config.id

/-- The text for a platform. -/
def text (c : Command) (platform : Platform := .current) : String :=
  c.config.command.forPlatform platform

/-- The shell for a platform: that of the command, or that of the settings. -/
def shell (c : Command) (settings : Settings) (platform : Platform := .current) : String :=
  (c.config.shells.get? platform).getD (settings.defaultShell platform)

/-- The title as configured: the alias, or the text if there is none. -/
def rawTitle (c : Command) : String := if c.config.title = "" then c.text else c.config.title

/-- Whether events of a kind trigger the command. -/
def isEventEnabled (c : Command) (kind : EventKind) : Bool :=
  ((c.config.events.get? kind.code).map (·.enabled)).getD false

/-- The kinds of events that trigger the command, in their order. -/
def enabledEvents (c : Command) : List EventKind := EventKind.all.filter c.isEventEnabled

/-- Lets events of a kind trigger the command. -/
def enableEvent (kind : EventKind) (c : Command) : Command :=
  let event := (c.config.events.get? kind.code).getD {}
  let events := c.config.events.insert kind.code { event with enabled := true }
  { c with config := { c.config with events } }

/-- Keeps events of a kind from triggering the command.  An entry is kept for its further settings
only. -/
def disableEvent (kind : EventKind) (c : Command) : Command :=
  match c.config.events.get? kind.code with
  | none => c
  | some event =>
    let events :=
      if event.extras.isEmpty then c.config.events.erase kind.code
      else c.config.events.insert kind.code { event with enabled := false }
    { c with config := { c.config with events } }

/-- The preactions of enabled steps.  The variables that depend on a prompt are those its fields
ask for. -/
def buildPreactions (settings : Settings) (registry : Registry)
    (configs : List PreactionConfig) : List PromptPreaction :=
  (configs.filter (·.enabled)).map fun config =>
    match config.kind with
    | .prompt id =>
      let prompt := settings.prompt? id
      let targets := (prompt.map fun p => p.fields.map (·.target)).getD []
      ⟨id, prompt, registry.select targets⟩

/-- The preactions, remembered or built. -/
def preactions (c : Command) (settings : Settings) (registry : Registry) :
    List PromptPreaction :=
  c.remembered.getD (buildPreactions settings registry c.config.preactions)

/-- The command after its preactions were asked for. -/
def remember (settings : Settings) (registry : Registry) (c : Command) : Command :=
  { c with remembered := some (c.preactions settings registry) }

/-- The command without its preactions, which are built anew when they are asked for. -/
def forget (c : Command) : Command := { c with remembered := none }

/-- Adds a step. -/
def addPreaction (config : PreactionConfig) (c : Command) : Command :=
  { c with config := { c.config with preactions := c.config.preactions ++ [config] } }.forget

/-- Switches the step at a position on or off, if there is one. -/
def setPreactionEnabled? (index : Nat) (enabled : Bool) (c : Command) : Option Command :=
  if index < c.config.preactions.length then
    let preactions := c.config.preactions.modify index fun p => { p with enabled }
    some { c with config := { c.config with preactions } }.forget
  else none

/-- The members of a set that some preaction gives values to. -/
def dependentIn (c : Command) (settings : Settings) (registry : Registry) (all : VariableSet) :
    VariableSet :=
  let dependent : VariableSet :=
    (c.preactions settings registry).foldl (fun names p => names.merge p.dependent) .empty
  all.filter fun v => dependent.contains v.name

/-- The variables that some preaction gives values to. -/
def dependentVariables (c : Command) (settings : Settings) (registry : Registry) : VariableSet :=
  c.dependentIn settings registry registry.snapshot

/-- The variables that no preaction gives values to. -/
def independentVariables (c : Command) (settings : Settings) (registry : Registry) :
    VariableSet :=
  registry.snapshot.subtract (c.dependentVariables settings registry)

/-- The expansion of the text and the title. -/
def expansion (c : Command) (settings : Settings) (registry : Registry) : Expansion :=
  let x : Expansion :=
    { sets := [c.independentVariables settings registry, c.dependentVariables settings registry]
      fallbacks := c.config.fallbacks }
  (x.addTarget textKey c.text).addTarget titleKey c.config.title

/-- The title with the variables of the first pass expanded where that works: the alias if it is
configured, else the text. -/
def preview (c : Command) (settings : Settings) (registry : Registry) (ctx : Context) : String :=
  match (c.expansion settings registry).start ctx with
  | .error _ => c.rawTitle
  | .ok (_, x) =>
    let content (key : String) := (x.result? key).bind (·.content)
    let title := if c.config.title = "" then none else content titleKey
    (title.or (content textKey)).getD c.rawTitle

end Command

end CommandTemplates
