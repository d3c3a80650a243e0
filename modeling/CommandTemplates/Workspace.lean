/-
Files and folders of the workspace.

The parts of a file name are cut at its last dot, wherever it stands: a name
that starts with its only dot has an empty stem.
-/
import CommandTemplates.Path

namespace CommandTemplates

/-- A name cut at its last dot: what is before the dot and what is after it. -/
def splitLastDot? (name : List Char) : Option (List Char × List Char) :=
  match name.reverse.dropWhile (· ≠ '.') with
  | [] => none
  | _ :: before => some (before.reverse, (name.reverse.takeWhile (· ≠ '.')).reverse)

/-- A file or folder of the workspace, by its path from the root of the workspace. -/
structure WorkspaceItem where
  path : Path
  deriving DecidableEq, Repr

namespace WorkspaceItem

/-- The path from outside the workspace. -/
def absolute (item : WorkspaceItem) (root : Path) : Path := root.join item.path

/-- The last step of the path, or nothing if it is no name. -/
def name (item : WorkspaceItem) : String := item.path.fileName?.getD ""

/-- The name up to its last dot; the whole name if it has none. -/
def stem (item : WorkspaceItem) : String :=
  match splitLastDot? item.name.toList with
  | some (before, _) => String.ofList before
  | none => item.name

/-- The name after its last dot; empty if it has none. -/
def extension (item : WorkspaceItem) : String :=
  match splitLastDot? item.name.toList with
  | some (_, after) => String.ofList after
  | none => ""

/-- The folder that contains the item; the workspace itself is the empty path. -/
def parent (item : WorkspaceItem) : WorkspaceItem := ⟨item.path.parent?.getD ⟨""⟩⟩

/-- Whether two items have the same path, step by step. -/
def same (a b : WorkspaceItem) : Bool := a.path.same b.path

end WorkspaceItem

end CommandTemplates
