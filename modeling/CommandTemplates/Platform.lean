/-
Operating systems that a command can have a text and a shell of its own for.
-/

namespace CommandTemplates

/-- The operating systems, in the order in which they are listed. -/
inductive Platform where
  | linux
  | macos
  | windows
  deriving DecidableEq, Repr

namespace Platform

/-- Every platform, in order. -/
def all : List Platform := [.linux, .macos, .windows]

/-- The name of a platform in settings. -/
def name : Platform → String
  | .linux => "linux"
  | .macos => "macos"
  | .windows => "windows"

/-- The platform with a name. -/
def ofName? (name : String) : Option Platform := all.find? fun platform => platform.name = name

/-- The shell for commands when nothing names one. -/
def fallbackShell : Platform → String
  | .linux | .macos => "/bin/sh"
  | .windows => "powershell.exe"

/-- The platform that commands are prepared for. -/
def current : Platform := .linux

end Platform

end CommandTemplates
