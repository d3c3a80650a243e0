/-
What a host has to offer: its commands and its variables.
-/
import CommandTemplates.Host
import CommandTemplates.Settings.Encode
import CommandTemplates.Table

namespace CommandTemplates

/-- A command in a list. -/
structure CommandEntry where
  id : CommandId
  title : String
  shell : String
  /-- The codes of the kinds of events that trigger it. -/
  events : List String
  /-- The number of its preactions. -/
  preactions : Nat
  deriving DecidableEq, Repr

/-- A variable in a list. -/
structure VariableEntry where
  name : String
  usage : String
  description : String
  available : Bool
  /-- The codes of the only kinds of events that it works in. -/
  events : Option (List String)
  deriving DecidableEq, Repr

namespace Host

/-- The entry of a command, with its title as configured or as a preview. -/
def commandEntry (h : Host) (preview : Bool) (c : Command) : CommandEntry :=
  { id := c.id
    title := if preview then (h.preview c).1 else c.rawTitle
    shell := c.shell h.settings
    events := c.enabledEvents.map (·.code)
    preactions := (c.preactions h.settings h.registry).length }

/-- The entries of all commands, and the host after their preactions were asked for. -/
def commandEntries (h : Host) (preview : Bool) : List CommandEntry × Host :=
  (h.commands.map (h.commandEntry preview),
    { h with commands := h.commands.map (·.remember h.settings h.registry) })

/-- The entries of all variables, for commands that events of a kind trigger. -/
def variableEntries (h : Host) (trigger : Option EventKind) : List VariableEntry :=
  h.registry.snapshot.members.map fun v =>
    { name := v.name
      usage := v.usage
      description := v.description
      available := v.isAvailableIn trigger
      events := v.supportedEvents.map fun kinds => kinds.map (·.code) }

end Host

namespace CommandEntry

/-- An entry as data. -/
def toValue (e : CommandEntry) : Value :=
  .table
    [("id", .text e.id), ("title", .text e.title), ("shell", .text e.shell),
     ("events", Encode.texts e.events), ("preactions", .integer e.preactions)]

/-- The text of a list of commands. -/
def listing (color : Bool) (entries : List CommandEntry) : String :=
  if entries = [] then "No shell commands configured\n"
  else
    let table : Table :=
      { columns := [⟨"ID", false, none⟩, ⟨"TITLE", false, some 60⟩, ⟨"EVENTS", true, none⟩]
        rows := entries.map fun e => [e.id, e.title, commaSeparated e.events] }
    table.render color

end CommandEntry

namespace VariableEntry

/-- An entry as data. -/
def toValue (e : VariableEntry) : Value :=
  .table <|
    [("name", .text e.name), ("usage", .text e.usage), ("description", .text e.description),
     ("available", .bool e.available)] ++
      match e.events with
      | some codes => [("events", Encode.texts codes)]
      | none => []

/-- The text of a list of variables. -/
def listing (color : Bool) (entries : List VariableEntry) : String :=
  let table : Table :=
    { columns :=
        [⟨"VARIABLE", false, none⟩, ⟨"AVAILABLE", false, none⟩, ⟨"DESCRIPTION", true, none⟩]
      rows := entries.map fun e => [e.usage, if e.available then "yes" else "no", e.description] }
  table.render color

end VariableEntry

end CommandTemplates
