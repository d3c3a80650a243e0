/-
Events that can trigger a command.

An event has a kind, which settings and command lines name by its code, and may
carry a subject: the file of a file event, the folder of a folder event.
`ofCode?_code` says that codes name kinds uniquely.
-/
import CommandTemplates.Workspace

namespace CommandTemplates

/-- The kinds of events, in the order in which they are listed. -/
inductive EventKind where
  | onStartup
  | onQuit
  | everyNSeconds
  | editorMenu
  | fileMenu
  | fileCreated
  | fileContentModified
  | fileDeleted
  | fileMoved
  | fileRenamed
  | folderMenu
  | folderCreated
  | folderDeleted
  | folderMoved
  | folderRenamed
  deriving DecidableEq, Repr

namespace EventKind

/-- Every kind, in order. -/
def all : List EventKind :=
  [.onStartup, .onQuit, .everyNSeconds, .editorMenu, .fileMenu, .fileCreated,
   .fileContentModified, .fileDeleted, .fileMoved, .fileRenamed, .folderMenu, .folderCreated,
   .folderDeleted, .folderMoved, .folderRenamed]

/-- The kinds whose subject is a file. -/
def fileKinds : List EventKind :=
  [.fileMenu, .fileCreated, .fileContentModified, .fileDeleted, .fileMoved, .fileRenamed]

/-- The kinds whose subject is a folder. -/
def folderKinds : List EventKind :=
  [.folderMenu, .folderCreated, .folderDeleted, .folderMoved, .folderRenamed]

/-- The name of a kind in settings and on the command line. -/
def code : EventKind → String
  | .onStartup => "on-startup"
  | .onQuit => "on-quit"
  | .everyNSeconds => "every-n-seconds"
  | .editorMenu => "editor-menu"
  | .fileMenu => "file-menu"
  | .fileCreated => "file-created"
  | .fileContentModified => "file-content-modified"
  | .fileDeleted => "file-deleted"
  | .fileMoved => "file-moved"
  | .fileRenamed => "file-renamed"
  | .folderMenu => "folder-menu"
  | .folderCreated => "folder-created"
  | .folderDeleted => "folder-deleted"
  | .folderMoved => "folder-moved"
  | .folderRenamed => "folder-renamed"

/-- The name of a kind for people. -/
def title : EventKind → String
  | .onStartup => "After the application starts"
  | .onQuit => "Before the application quits"
  | .everyNSeconds => "Every n seconds"
  | .editorMenu => "Editor menu"
  | .fileMenu => "File menu"
  | .fileCreated => "File created"
  | .fileContentModified => "File content modified"
  | .fileDeleted => "File deleted"
  | .fileMoved => "File moved"
  | .fileRenamed => "File renamed"
  | .folderMenu => "Folder menu"
  | .folderCreated => "Folder created"
  | .folderDeleted => "Folder deleted"
  | .folderMoved => "Folder moved"
  | .folderRenamed => "Folder renamed"

/-- The kind with a code. -/
def ofCode? (code : String) : Option EventKind := all.find? fun kind => kind.code = code

/-- Whether the subject of such events is a file. -/
def isFileKind (kind : EventKind) : Bool := kind ∈ fileKinds

/-- Whether the subject of such events is a folder. -/
def isFolderKind (kind : EventKind) : Bool := kind ∈ folderKinds

theorem mem_all (kind : EventKind) : kind ∈ all := by cases kind <;> decide

theorem ofCode?_code (kind : EventKind) : ofCode? kind.code = some kind := by
  cases kind <;> decide

end EventKind

/-- A text that names no kind of event. -/
structure UnknownEvent where
  code : String
  deriving DecidableEq, Repr

/-- The wording of an unknown event. -/
def UnknownEvent.message (e : UnknownEvent) : String := "unknown event: " ++ e.code

/-- An event that happened. -/
structure Event where
  kind : EventKind
  subject : Option WorkspaceItem := none
  deriving DecidableEq, Repr

namespace Event

/-- The file that the event is about; only file events have one. -/
def file? (e : Event) : Option WorkspaceItem := e.subject.filter fun _ => e.kind.isFileKind

/-- The folder that the event is about: the folder of a folder event, and the folder that
contains the file of a file event. -/
def folder? (e : Event) : Option WorkspaceItem :=
  match e.subject with
  | none => none
  | some item =>
    if e.kind.isFolderKind then some item
    else if e.kind.isFileKind then some item.parent
    else none

end Event

end CommandTemplates
