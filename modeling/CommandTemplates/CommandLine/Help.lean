/-
Help texts of the command line.

A help page is data: what its topic is for, how it is used, and sections of rows
that explain names.  Names that are typed as they stand and headings have styles
on a terminal; a page without styles has the same words in the same places,
because widths count the words only.

* `Phrase.render` — a phrase with or without its style;
* `HelpPage.lines` — the layout of a page;
* `Topic.page` — the pages themselves.
-/

namespace CommandTemplates.CommandLine

/-- What help can be about. -/
inductive Topic where
  | program
  | list
  | catalog
  | parse
  | help
  deriving DecidableEq, Repr

/-- A piece of a help text, by what it is to the reader. -/
inductive Phrase where
  | plain (text : String)
  /-- A name that is typed as it stands. -/
  | literal (text : String)
  | heading (text : String)
  deriving DecidableEq, Repr

namespace Phrase

/-- The words of a phrase. -/
def text : Phrase → String
  | plain text | literal text | heading text => text

/-- A text in a style of the terminal, given by the codes that start it. -/
def inStyle (start text : String) : String := start ++ text ++ "\x1b[0m"

/-- A phrase as it is shown: literals are bold, headings bold and underlined. -/
def render (styled : Bool) : Phrase → String
  | plain text => text
  | literal text => if styled then inStyle "\x1b[1m" text else text
  | heading text => if styled then inStyle "\x1b[1m\x1b[4m" text else text

/-- Phrases side by side. -/
def renderAll (styled : Bool) (phrases : List Phrase) : String :=
  String.join (phrases.map (render styled))

end Phrase

/-- A name and what it stands for. -/
structure HelpRow where
  name : List Phrase
  description : String
  deriving DecidableEq, Repr

/-- Rows under a heading. -/
structure HelpSection where
  heading : String
  rows : List HelpRow
  deriving DecidableEq, Repr

/-- What a help text says. -/
structure HelpPage where
  purpose : String
  /-- How the command is written. -/
  usage : List Phrase
  sections : List HelpSection
  deriving DecidableEq, Repr

namespace HelpRow

/-- The row of an option; an option without a letter leaves the place of the letter blank. -/
def option (letter : Option Char) (name value description : String) : HelpRow :=
  { name :=
      (match letter with
        | some c => [.literal ("-" ++ c.toString), .plain ", "]
        | none => [.plain "    "]) ++
      .literal ("--" ++ name) :: (if value = "" then [] else [.plain (" <" ++ value ++ ">")])
    description }

/-- The characters of the name. -/
def width (row : HelpRow) : Nat := (String.join (row.name.map (·.text))).length

/-- The line of a row whose name is filled up to a width. -/
def line (styled : Bool) (width : Nat) (row : HelpRow) : String :=
  "  " ++ Phrase.renderAll styled row.name ++
    String.ofList (List.replicate (width - row.width) ' ') ++ "  " ++ row.description

end HelpRow

namespace HelpSection

/-- The width of the widest name. -/
def width (s : HelpSection) : Nat := s.rows.foldl (fun w row => max w row.width) 0

/-- The lines of a section. -/
def lines (styled : Bool) (s : HelpSection) : List String :=
  (Phrase.heading (s.heading ++ ":")).render styled :: s.rows.map (HelpRow.line styled s.width)

end HelpSection

namespace HelpPage

/-- The lines of a page, with an empty line before the usage and before each section. -/
def lines (styled : Bool) (page : HelpPage) : List String :=
  page.purpose :: "" ::
    Phrase.renderAll styled (.heading "Usage:" :: .plain " " :: page.usage) ::
      page.sections.flatMap fun s => "" :: s.lines styled

/-- The text of a page. -/
def render (styled : Bool) (page : HelpPage) : String :=
  String.join ((page.lines styled).map (· ++ "\n"))

end HelpPage

namespace Topic

/-- The word for a subcommand; the program itself has none. -/
def word? : Topic → Option String
  | .program => none
  | .list => some "list"
  | .catalog => some "variables"
  | .parse => some "parse"
  | .help => some "help"

/-- The subcommand with a word. -/
def ofWord? (word : String) : Option Topic :=
  [list, catalog, parse, help].find? fun t => t.word? = some word

/-- What a topic is for. -/
def purpose : Topic → String
  | .program => "Resolve variables in configured shell commands"
  | .list => "List configured shell commands"
  | .catalog => "List variables and where they can be used"
  | .parse => "Parse a shell command, asking for prompt values on stdin"
  | .help => "Print this message or the help of the given subcommand(s)"

/-- The words that a command line about a topic starts with. -/
def invocation (t : Topic) : String :=
  match t.word? with
  | some word => "shellcmd " ++ word
  | none => "shellcmd"

/-- What follows these words. -/
def parameters : Topic → String
  | .program => " [OPTIONS] [COMMAND]"
  | .list | .catalog => " [OPTIONS]"
  | .parse => " [OPTIONS] <ID>"
  | .help => " [COMMAND]..."

/-- The row of a subcommand. -/
def row (t : Topic) : HelpRow := ⟨[.literal (t.word?.getD "")], t.purpose⟩

/-- The row of the output format. -/
def outputRow : HelpRow :=
  .option (some 'o') "output" "OUTPUT"
    "Output format [default: text] [possible values: text, json]"

/-- The row of the settings file. -/
def configRow : HelpRow :=
  .option none "config" "PATH"
    "Settings file (default: $SHELLCMD_CONFIG, then the user config dir)"

/-- The row of the workspace root. -/
def rootRow : HelpRow :=
  .option none "root" "DIR" "Workspace root (default: current directory)"

/-- The row of the active file. -/
def fileRow : HelpRow :=
  .option none "file" "FILE" "Active file, relative to the workspace root"

/-- The row of help. -/
def helpRow : HelpRow := .option (some 'h') "help" "" "Print help"

/-- The sections of help about a topic. -/
def sections : Topic → List HelpSection
  | .program =>
    [⟨"Commands", [list.row, catalog.row, parse.row, help.row]⟩,
     ⟨"Options",
      [outputRow, configRow, rootRow, helpRow,
       .option (some 'V') "version" "" "Print version"]⟩]
  | .list =>
    [⟨"Options",
      [outputRow,
       .option none "preview" "" "Show titles with variables resolved where possible",
       configRow, fileRow, rootRow, helpRow]⟩]
  | .catalog =>
    [⟨"Options",
      [.option none "event" "CODE" "Report availability for commands triggered by this event",
       outputRow, configRow, rootRow, helpRow]⟩]
  | .parse =>
    [⟨"Arguments", [⟨[.plain "<ID>"], "Shell command id"⟩]⟩,
     ⟨"Options",
      [fileRow, outputRow, configRow,
       .option none "event" "CODE" "Parse as if triggered by this event, e.g. file-created",
       rootRow,
       .option none "subject" "PATH" "File or folder the event is about",
       helpRow]⟩]
  | .help => [⟨"Arguments", [⟨[.plain "[COMMAND]..."], "Print help for the subcommand(s)"⟩]⟩]

/-- The page about a topic. -/
def page (t : Topic) : HelpPage :=
  { purpose := t.purpose
    usage := [.literal t.invocation, .plain t.parameters]
    sections := t.sections }

/-- The help about a topic. -/
def text (styled : Bool) (t : Topic) : String := t.page.render styled

end Topic

/-- The text of the version. -/
def versionText : String := "shellcmd 0.1.0\n"

end CommandTemplates.CommandLine
