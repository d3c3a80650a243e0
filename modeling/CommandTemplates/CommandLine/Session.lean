/-
Sessions of the command line: one run of the program.

A session gets its arguments, its folder and the variables of the process, and
works through `Effects` on whatever monad it runs in: it reads files, puts
prompts to a terminal and prints.

* `workspaceRelative` — a path as seen from the root of the workspace;
* `eventOf` — the event that options describe;
* `loadSettings` — where the settings are, and what they are;
* `run` — the whole session, with the code it ends with.
-/
import CommandTemplates.CommandLine.Arguments
import CommandTemplates.Listing
import CommandTemplates.Prompt.Lines
import CommandTemplates.Report
import CommandTemplates.Settings.Document

namespace CommandTemplates.CommandLine

/-- Why a file cannot be read. -/
inductive ReadError where
  | notFound
  | notDirectory
  | isDirectory
  | denied
  | nameTooLong
  | notText
  | other (reason : String)
  deriving DecidableEq, Repr

/-- The wording of a read error. -/
def ReadError.message : ReadError → String
  | .notFound => "No such file or directory (os error 2)"
  | .notDirectory => "Not a directory (os error 20)"
  | .isDirectory => "Is a directory (os error 21)"
  | .denied => "Permission denied (os error 13)"
  | .nameTooLong => "File name too long (os error 36)"
  | .notText => "stream did not contain valid UTF-8"
  | .other reason => reason

/-- What a session finds when it starts. -/
structure Invocation where
  arguments : List String
  /-- The folder that the session runs in. -/
  folder : Path
  /-- The variables of the process. -/
  processVariables : List (String × List UInt8) := []
  now : Moment
  /-- Whether output goes to a terminal. -/
  isTerminal : Bool := false

/-- What a session can do. -/
structure Effects (m : Type → Type) where
  exists? : Path → m Bool
  contents : Path → m (Except ReadError (List UInt8))
  print : String → m Unit
  terminal : Terminal m

namespace Invocation

/-- A variable as a process keeps it: its name, an equals sign and its value. -/
def processEntry (name : String) (value : List UInt8) : List UInt8 :=
  Utf8.encode (name ++ "=") ++ value

/-- The bytes of a variable of the process: the rest of the first entry that starts with the name
and an equals sign. -/
def processBytes? (i : Invocation) (name : String) : Option (List UInt8) :=
  i.processVariables.findSome? fun v =>
    (processEntry name []).isPrefixOf? (processEntry v.1 v.2)

/-- The value of a variable of the process.  Values that are not UTF-8 count as absent. -/
def processVariable? (i : Invocation) (name : String) : Option String :=
  match i.processBytes? name with
  | some bytes => (Utf8.decode bytes).toOption
  | none => none

/-- Whether tables have colors: one variable forbids them, another asks for them, and otherwise
terminals have them. -/
def hasColor (i : Invocation) : Bool :=
  if i.processVariable? "NO_COLOR" = some "1" then false
  else if i.processVariable? "COLOR" = some "1" then true
  else i.isTerminal

/-- Whether help has styles.  A variable that is not empty forbids them, another one asks for them,
and a third rules them out as zero; otherwise terminals have them whose kind is known and not
`dumb`, or for which a variable speaks. -/
def hasStyles (i : Invocation) : Bool :=
  let hasText (name : String) := (i.processBytes? name).any (· ≠ [])
  let wish := i.processBytes? "CLICOLOR"
  if hasText "NO_COLOR" then false
  else if hasText "CLICOLOR_FORCE" then true
  else if wish = some (Utf8.encode "0") then false
  else
    i.isTerminal &&
      ((i.processBytes? "TERM").any (· ≠ Utf8.encode "dumb") || wish.isSome ||
        (i.processBytes? "CI").isSome)

/-- The user's folder for configuration. -/
def configFolder? (i : Invocation) : Option Path :=
  match (i.processVariable? "XDG_CONFIG_HOME").map Path.mk with
  | some path => if path.isAbsolute then some path else home?
  | none => home?
where
  /-- The folder in the home of the user. -/
  home? : Option Path :=
    match i.processVariable? "HOME" with
    | some home => if home = "" then none else some ((Path.mk home).join ⟨".config"⟩)
    | none => none

/-- The settings file named by the options or by a variable. -/
def namedSettings? (i : Invocation) (options : Options) : Option Path :=
  options.config.or <|
    match i.processVariable? "SHELLCMD_CONFIG" with
    | some path => if path = "" then none else some ⟨path⟩
    | none => none

/-- The settings file of a user who names none. -/
def defaultSettings? (i : Invocation) : Option Path :=
  i.configFolder?.map fun folder => (folder.join ⟨"shellcmd"⟩).join ⟨"config.toml"⟩

/-- The root of the workspace. -/
def root (i : Invocation) (options : Options) : Path := options.root.getD i.folder

end Invocation

/-- A path as seen from the root of the workspace; a relative one is taken to be so. -/
def workspaceRelative (root path : Path) : Except String Path :=
  if path.isAbsolute then
    match Path.stripPrefix? root path with
    | some relative => .ok relative
    | none => .error s!"{path.text} is outside the workspace root {root.text}"
  else .ok path

/-- Why options describe no event. -/
inductive EventError where
  | subjectAlone
  | unknown (e : UnknownEvent)
  | outside (message : String)
  deriving DecidableEq, Repr

/-- The wording of the reason. -/
def EventError.message : EventError → String
  | .subjectAlone => "--subject requires --event"
  | .unknown e => e.message
  | .outside message => message

/-- The kind of event that an option names. -/
def kindOf (code : String) : Except UnknownEvent EventKind :=
  match EventKind.ofCode? code with
  | some kind => .ok kind
  | none => .error ⟨code⟩

/-- The event that a code and a subject describe. -/
def eventOf (root : Path) (code : Option String) (subject : Option Path) :
    Except EventError (Option Event) :=
  match code, subject with
  | none, none => .ok none
  | none, some _ => .error .subjectAlone
  | some code, subject => do
    let kind ← (kindOf code).mapError EventError.unknown
    match subject with
    | none => return some ⟨kind, none⟩
    | some path =>
      let relative ← (workspaceRelative root path).mapError EventError.outside
      return some ⟨kind, some ⟨relative⟩⟩

/-- An end of the program with a message. -/
def failure (message : String) : Exit := ⟨1, message⟩

section

variable {m : Type → Type} [Monad m]

/-- The settings in a file. -/
def readSettings (e : Effects m) (path : Path) : m (Except SettingsError Settings) := do
  match ← e.contents path with
  | .error reason => pure (.error (.unreadable path.text reason.message))
  | .ok bytes =>
    match Utf8.decode bytes with
    | .error _ => pure (.error (.unreadable path.text ReadError.notText.message))
    | .ok text => pure (Settings.parse text)

/-- The settings of a session.  A file that is named must be there; without the default file there
are no settings. -/
def loadSettings (e : Effects m) (i : Invocation) (options : Options) :
    m (Except SettingsError Settings) := do
  match i.namedSettings? options with
  | some path => readSettings e path
  | none =>
    match i.defaultSettings? with
    | none => pure (.ok {})
    | some path => if ← e.exists? path then readSettings e path else pure (.ok {})

/-- The host of a session. -/
def openHost (e : Effects m) (i : Invocation) (options : Options) (file : Option Path) :
    m (Except Exit Host) := do
  match ← loadSettings e i options with
  | .error reason => pure (.error (failure reason.message))
  | .ok settings =>
    let root := i.root options
    pure do
      let relative ← (file.mapM (workspaceRelative root)).mapError failure
      let environment : Environment :=
        { root, activeFile := relative.map WorkspaceItem.mk, now := i.now,
          processVariable? := i.processVariable? }
      (Host.ofSettings settings environment).mapError fun reason => failure reason.message

/-- Prints entries as a table or as JSON. -/
def printEntries {α : Type} (e : Effects m) (format : OutputFormat) (listing : List α → String)
    (toValue : α → Value) (entries : List α) : m Unit :=
  match format with
  | .text => e.print (listing entries)
  | .json => e.print (jsonText (.list (entries.map toValue)))

/-- Lists the commands. -/
def runList (e : Effects m) (i : Invocation) (options : Options) (preview : Bool)
    (file : Option Path) : m (Except Exit Unit) := do
  match ← openHost e i options file with
  | .error exit => pure (.error exit)
  | .ok host =>
    let entries := (host.commandEntries preview).1
    printEntries e options.output (CommandEntry.listing i.hasColor) CommandEntry.toValue entries
    pure (.ok ())

/-- Lists the variables. -/
def runCatalog (e : Effects m) (i : Invocation) (options : Options) (code : Option String) :
    m (Except Exit Unit) := do
  match code.mapM kindOf with
  | .error unknown => pure (.error (failure unknown.message))
  | .ok trigger =>
    match ← openHost e i options none with
    | .error exit => pure (.error exit)
    | .ok host =>
      printEntries e options.output (VariableEntry.listing i.hasColor) VariableEntry.toValue
        (host.variableEntries trigger)
      pure (.ok ())

/-- Prepares a command and reports the outcome. -/
def runParse (e : Effects m) (i : Invocation) (options : Options) (id : String)
    (file : Option Path) (code : Option String) (subject : Option Path) :
    m (Except Exit Unit) := do
  match eventOf (i.root options) code subject with
  | .error reason => pure (.error (failure reason.message))
  | .ok event =>
    match ← openHost e i options file with
    | .error exit => pure (.error exit)
    | .ok host =>
      match host.requireCommand id with
      | .error reason => pure (.error (failure reason.message))
      | .ok command =>
        match ← host.prepare e.terminal.channel command event with
        | (.error reason, _) => pure (.error (failure reason.message))
        | (.ok preparation, _) => do
          e.print (preparation.output options.output)
          match preparation.exit? options.output with
          | some exit => pure (.error exit)
          | none => pure (.ok ())

/-- Does what the arguments ask for. -/
def runRequest (e : Effects m) (i : Invocation) (request : Request) : m (Except Exit Unit) :=
  match request.subcommand with
  | none => do
    e.print (Topic.program.text i.hasStyles ++ "\n")
    pure (.ok ())
  | some (.list preview file) => runList e i request.options preview file
  | some (.catalog event) => runCatalog e i request.options event
  | some (.parse id file event subject) =>
    runParse e i request.options id file event subject

/-- Runs a session and gives its code. -/
def run (e : Effects m) (i : Invocation) : m Nat := do
  match read i.arguments with
  | .error (.help topic) => do
    e.print (topic.text i.hasStyles)
    pure 0
  | .error .version => do
    e.print versionText
    pure 0
  | .error .usage => do
    e.terminal.display "error: invalid arguments\n\nFor more information, try '--help'.\n"
    pure 2
  | .ok request => do
    match ← runRequest e i request with
    | .ok () => pure 0
    | .error exit => do
      if exit.message ≠ "" then e.terminal.display ("Error: " ++ exit.message ++ "\n")
      pure exit.code

end

end CommandTemplates.CommandLine
