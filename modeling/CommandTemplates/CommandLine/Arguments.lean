/-
Arguments of the command line.

Arguments are read from left to right.  A long option has its value after `=` or
in the next argument, a short one also right after its letter; `--` ends the
options.  Options of the program may stand before or after the subcommand, and
after it they count.  The first request for help or the version ends the
reading, and so does the first mistake.

A value in an argument of its own is checked when the next option, the next
positional argument or the end of its level is reached (`Reading.settle`), so a
request for help right behind a subcommand comes before that check.
-/
import CommandTemplates.CommandLine.Help
import CommandTemplates.Path
import CommandTemplates.Report

namespace CommandTemplates.CommandLine

/-- An option: its long name, its letter, and the values that it takes. -/
structure OptionSpec where
  name : String
  letter : Option Char := none
  takesValue : Bool := true
  accepts : String → Bool := fun _ => true

/-- Values that name a file or folder. -/
def isPath (value : String) : Bool := value ≠ ""

/-- The options of the program. -/
def programOptions : List OptionSpec :=
  [{ name := "output", letter := some 'o', accepts := fun v => v = "text" || v = "json" },
   { name := "config", accepts := isPath },
   { name := "root", accepts := isPath }]

/-- The options that a topic takes, those of the program included. -/
def Topic.options : Topic → List OptionSpec
  | .list =>
    { name := "preview", takesValue := false } :: { name := "file", accepts := isPath } ::
      programOptions
  | .catalog => { name := "event" } :: programOptions
  | .parse =>
    { name := "file", accepts := isPath } :: { name := "event" } ::
      { name := "subject", accepts := isPath } :: programOptions
  | .program => programOptions
  | .help => []

/-- Why the reading of arguments ends early. -/
inductive Stop where
  | help (topic : Topic)
  | version
  /-- A mistake in the arguments. -/
  | usage
  deriving DecidableEq, Repr

/-- What has been read of the arguments of one level. -/
structure Reading where
  /-- The options given, with their values; a switch has the empty one. -/
  given : List (String × String) := []
  /-- An option whose value is still to come or still to be checked. -/
  pending : Option (OptionSpec × Option String) := none
  positional : Option String := none
  /-- Whether the options have ended. -/
  trailing : Bool := false

namespace Reading

/-- Takes a value of an option, which may be given once. -/
def commit (r : Reading) (o : OptionSpec) (value : String) : Except Stop Reading :=
  if r.given.any (fun g => g.1 = o.name) || !o.accepts value then .error .usage
  else .ok { r with given := r.given ++ [(o.name, value)] }

/-- Takes the value of the pending option, if there is one. -/
def settle (r : Reading) : Except Stop Reading :=
  match r.pending with
  | none => .ok r
  | some (_, none) => .error .usage
  | some (o, some value) => { r with pending := none }.commit o value

/-- Ends the reading once the pending option is settled. -/
def stop (r : Reading) (s : Stop) : Except Stop Reading := do
  let _ ← r.settle
  .error s

/-- Takes an option with the value attached to it, if any. -/
def takeOption (r : Reading) (o : OptionSpec) (attached : Option String) :
    Except Stop Reading := do
  match attached with
  | some value => if o.takesValue then (← r.settle).commit o value else .error .usage
  | none =>
    let r ← r.settle
    if o.takesValue then .ok { r with pending := some (o, none) } else r.commit o ""

/-- Takes an option by its long name, with what stands after an equals sign. -/
def takeLong (topic : Topic) (r : Reading) (body : List Char) : Except Stop Reading :=
  let name := String.ofList (body.takeWhile (· ≠ '='))
  let attached :=
    match body.dropWhile (· ≠ '=') with
    | [] => none
    | _ :: value => some (String.ofList value)
  match topic.options.find? fun o => o.name = name with
  | some o => r.takeOption o attached
  | none =>
    if attached.isSome then .error .usage
    else if name = "help" then r.stop (.help topic)
    else if name = "version" && topic = .program then r.stop .version
    else .error .usage

/-- Takes an option by its letter; what follows the letter is its value, after an equals sign or
not. -/
def takeShort (topic : Topic) (r : Reading) (letter : Char) (rest : List Char) :
    Except Stop Reading :=
  match topic.options.find? fun o => o.letter = some letter with
  | some o =>
    match rest with
    | [] => r.takeOption o none
    | '=' :: value => r.takeOption o (some (String.ofList value))
    | value => r.takeOption o (some (String.ofList value))
  | none =>
    if letter = 'h' then r.stop (.help topic)
    else if letter = 'V' && topic = .program then r.stop .version
    else .error .usage

/-- Takes a positional argument, of which only the parse subcommand has one. -/
def takePositional (topic : Topic) (r : Reading) (argument : String) : Except Stop Reading := do
  let r ← r.settle
  if topic = .parse && r.positional.isNone then .ok { r with positional := some argument }
  else .error .usage

/-- Whether the next argument is the value of an option. -/
def awaitsValue (r : Reading) : Bool :=
  match r.pending with
  | some (_, none) => true
  | _ => false

/-- Takes an argument that is no subcommand. -/
def take (topic : Topic) (r : Reading) (argument : String) : Except Stop Reading :=
  if r.trailing then r.takePositional topic argument
  else
    match argument.toList with
    | ['-', '-'] => .ok { r with trailing := true }
    | '-' :: '-' :: body => r.takeLong topic body
    | '-' :: letter :: rest => r.takeShort topic letter rest
    | _ =>
      match r.pending with
      | some (o, none) => .ok { r with pending := some (o, some argument) }
      | _ => r.takePositional topic argument

/-- The value given for an option. -/
def value? (r : Reading) (name : String) : Option String :=
  (r.given.find? fun g => g.1 = name).map Prod.snd

end Reading

/-- What a subcommand is asked to do. -/
inductive Subcommand where
  | list (preview : Bool) (file : Option Path)
  | catalog (event : Option String)
  | parse (id : String) (file : Option Path) (event : Option String) (subject : Option Path)
  deriving DecidableEq, Repr

/-- The options of the program. -/
structure Options where
  output : OutputFormat := .text
  config : Option Path := none
  root : Option Path := none
  deriving DecidableEq, Repr

/-- What the arguments ask for; without a subcommand, for help. -/
structure Request where
  options : Options
  subcommand : Option Subcommand
  deriving DecidableEq, Repr

/-- The options of the program as given on its level or, where given there, on that of the
subcommand. -/
def options (outer inner : Reading) : Options :=
  let value? (name : String) := (inner.value? name).or (outer.value? name)
  { output := if value? "output" = some "json" then .json else .text
    config := (value? "config").map Path.mk
    root := (value? "root").map Path.mk }

/-- What a subcommand is asked to do by the arguments of its level. -/
def subcommand? (topic : Topic) (r : Reading) : Option Subcommand :=
  let path? (name : String) := (r.value? name).map Path.mk
  match topic with
  | .list => some (.list (r.value? "preview").isSome (path? "file"))
  | .catalog => some (.catalog (r.value? "event"))
  | .parse =>
    r.positional.map fun id => .parse id (path? "file") (r.value? "event") (path? "subject")
  | .program | .help => none

/-- Reads the arguments of a subcommand. -/
def readSubcommand (topic : Topic) (arguments : List String) : Except Stop Reading := do
  let r ← arguments.foldlM (fun r argument => r.take topic argument) ({} : Reading)
  r.settle

/-- The topic of a request for help by words. -/
def helpTopic : List String → Except Stop Topic
  | [] => .ok .program
  | [word] =>
    match Topic.ofWord? word with
    | some topic => .ok topic
    | none => .error .usage
  | _ => .error .usage

/-- Reads arguments on the level of the program. -/
def readFrom (r : Reading) : List String → Except Stop Request
  | [] => do
    let r ← r.settle
    return ⟨options r {}, none⟩
  | argument :: rest =>
    match (if r.trailing || r.awaitsValue then none else Topic.ofWord? argument) with
    | some .help => do .error (.help (← helpTopic rest))
    | some topic => do
      let inner ← readSubcommand topic rest
      let outer ← r.settle
      match subcommand? topic inner with
      | some subcommand => return ⟨options outer inner, some subcommand⟩
      | none => .error .usage
    | none => do readFrom (← r.take .program argument) rest

/-- What the arguments ask for. -/
def read (arguments : List String) : Except Stop Request := readFrom {} arguments

end CommandTemplates.CommandLine
