/-
The variables that are always there: the date, the environment, the active file
and its folder, the workspace, and the event that triggered the command.
-/
import CommandTemplates.Calendar.Format
import CommandTemplates.Variable.Basic

namespace CommandTemplates.Builtin

/-- How an extension is shown. -/
def dotParameter : Parameter := ⟨"dot", .options ["with-dot", "no-dot"], true⟩

/-- How a path is shown. -/
def modeParameter : Parameter := ⟨"mode", .options ["absolute", "relative"], true⟩

/-- The extension of an item, after a dot if it is wanted and there is an extension. -/
def extensionText (item : WorkspaceItem) (arguments : Arguments) : String :=
  if arguments.get? "dot" = some "with-dot" && item.extension ≠ "" then "." ++ item.extension
  else item.extension

/-- The path of an item, from outside or from the workspace, which is `.` itself. -/
def pathText (item : WorkspaceItem) (root : Path) (arguments : Arguments) : String :=
  if arguments.get? "mode" = some "absolute" then (item.absolute root).text
  else if item.path.text = "" then "."
  else item.path.text

/-- The name of a folder; the workspace has the name of its root. -/
def folderNameText (folder : WorkspaceItem) (root : Path) : String :=
  if folder.path.text = "" then root.fileName?.getD "." else folder.name

/-- A value made from the active file. -/
def ofActiveFile (name : String) (f : WorkspaceItem → Environment → Arguments → String)
    (arguments : Arguments) (ctx : Context) : Except VariableError String :=
  match ctx.environment.activeFile with
  | some file => .ok (f file ctx.environment arguments)
  | none => .error (.noActiveFile name)

/-- A value made from the event. -/
def ofEvent (name : String) (f : Event → Except VariableError String) (ctx : Context) :
    Except VariableError String :=
  match ctx.event with
  | some event => f event
  | none => .error (.unsupportedEvent name none)

/-- A value made from what the event is about. -/
def ofSubject (name : String) (subject? : Event → Option WorkspaceItem)
    (f : WorkspaceItem → Environment → Arguments → String) (arguments : Arguments)
    (ctx : Context) : Except VariableError String :=
  ofEvent name
    (fun event =>
      match subject? event with
      | some item => .ok (f item ctx.environment arguments)
      | none => .error (.missingSubject name event.kind))
    ctx

/-- The current date and time in a format. -/
def date : Variable where
  name := "date"
  description :=
    "A date/time stamp. The mandatory format uses moment-style tokens such as " ++
      "YYYY-MM-DD HH\\:mm."
  parameters := [⟨"format", .text, true⟩]
  generate arguments ctx := .ok (ctx.environment.now.format ((arguments.get? "format").getD ""))

/-- A variable of the process. -/
def environment : Variable where
  name := "environment"
  description :=
    "Value of an environment variable of the host process. Fails if the variable is not set."
  parameters := [⟨"variable", .text, true⟩]
  generate arguments ctx :=
    let name := (arguments.get? "variable").getD ""
    match ctx.environment.processVariable? name with
    | some value => .ok value
    | none => .error (.notSet "environment" name)

/-- The extension of the active file. -/
def fileExtension : Variable where
  name := "file_extension"
  description :=
    "The active file name's ending. with-dot adds a preceding dot unless the extension is " ++
      "empty; no-dot never does."
  parameters := [dotParameter]
  needsActiveFile := true
  generate := ofActiveFile "file_extension" fun file _ arguments => extensionText file arguments

/-- The name of the active file. -/
def fileName : Variable where
  name := "file_name"
  description := "The active file name, including its extension."
  needsActiveFile := true
  generate := ofActiveFile "file_name" fun file _ _ => file.name

/-- The path of the active file. -/
def filePath : Variable where
  name := "file_path"
  description := "Path to the active file, absolute or relative to the workspace root."
  parameters := [modeParameter]
  needsActiveFile := true
  generate := ofActiveFile "file_path" fun file env arguments => pathText file env.root arguments

/-- The name of the active file's folder. -/
def folderName : Variable where
  name := "folder_name"
  description := "Name of the folder containing the active file."
  needsActiveFile := true
  generate := ofActiveFile "folder_name" fun file env _ => folderNameText file.parent env.root

/-- The path of the active file's folder. -/
def folderPath : Variable where
  name := "folder_path"
  description := "Path to the folder containing the active file."
  parameters := [modeParameter]
  needsActiveFile := true
  generate :=
    ofActiveFile "folder_path" fun file env arguments => pathText file.parent env.root arguments

/-- The name of the active file without its extension. -/
def title : Variable where
  name := "title"
  description := "The active file name without its extension."
  needsActiveFile := true
  generate := ofActiveFile "title" fun file _ _ => file.stem

/-- The root of the workspace. -/
def workspacePath : Variable where
  name := "workspace_path"
  description := "Absolute path of the workspace root."
  generate _ ctx := .ok ctx.environment.root.text

/-- The extension of the event's file. -/
def eventFileExtension : Variable where
  name := "event_file_extension"
  description := "The event related file name's ending, with or without a preceding dot."
  parameters := [dotParameter]
  supportedEvents := some EventKind.fileKinds
  generate :=
    ofSubject "event_file_extension" Event.file? fun file _ arguments =>
      extensionText file arguments

/-- The name of the event's file. -/
def eventFileName : Variable where
  name := "event_file_name"
  description := "The event related file name, including its extension."
  supportedEvents := some EventKind.fileKinds
  generate := ofSubject "event_file_name" Event.file? fun file _ _ => file.name

/-- The path of the event's file. -/
def eventFilePath : Variable where
  name := "event_file_path"
  description := "Path to the event related file, absolute or relative to the workspace root."
  parameters := [modeParameter]
  supportedEvents := some EventKind.fileKinds
  generate :=
    ofSubject "event_file_path" Event.file? fun file env arguments =>
      pathText file env.root arguments

/-- The path of the event's folder, or of the folder that contains its file. -/
def eventFolderPath : Variable where
  name := "event_folder_path"
  description :=
    "Path to the event related folder: the folder itself, or the folder containing the " ++
      "event's file."
  parameters := [modeParameter]
  supportedEvents := some (EventKind.fileKinds ++ EventKind.folderKinds)
  generate :=
    ofSubject "event_folder_path" Event.folder? fun folder env arguments =>
      pathText folder env.root arguments

/-- The code of the event's kind. -/
def eventType : Variable where
  name := "event_type"
  description := "Code of the event that triggered the command, e.g. file-created."
  supportedEvents := some EventKind.all
  generate _ ctx := ofEvent "event_type" (fun event => .ok event.kind.code) ctx

/-- Every variable of this module, in the order of help. -/
def all : List Variable :=
  [date, environment, fileExtension, fileName, filePath, folderName, folderPath, title,
   workspacePath, eventFileExtension, eventFileName, eventFilePath, eventFolderPath, eventType]

/-- The variable of this module with a name. -/
def ofName? (name : String) : Option Variable := all.find? fun v => v.name = name

theorem nodup_map_name : (all.map (·.name)).Nodup := by decide

end CommandTemplates.Builtin
