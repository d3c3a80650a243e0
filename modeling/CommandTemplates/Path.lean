/-
Slash-separated paths.

A path is kept as it is written; its meaning is its list of components.  Repeated
slashes, slashes at the end and `.` segments after the first are written but
mean nothing (`isIdle`), so `parent?` and `stripPrefix?` leave them out where
they cut a path and keep them elsewhere.

* `components` — what a path means;
* `fileName?` — the last component, if it is a name;
* `parent?` — the path up to its last component;
* `join` — a path seen from another one; an absolute path stays as it is;
* `stripPrefix?` — a path seen from one of the folders it goes through.
-/

namespace CommandTemplates

/-- A path, as written. -/
structure Path where
  text : String
  deriving DecidableEq, Repr, Inhabited

namespace Path

/-- One step of a path. -/
inductive Component where
  /-- The root of the file system. -/
  | root
  /-- The current folder, which only the first step can be. -/
  | here
  /-- The containing folder. -/
  | up
  /-- A file or folder by name. -/
  | name (text : String)
  deriving DecidableEq, Repr

/-- The parts of a text between its slashes. -/
def segments : List Char → List (List Char)
  | [] => [[]]
  | c :: cs =>
    if c = '/' then [] :: segments cs
    else
      match segments cs with
      | s :: ss => (c :: s) :: ss
      | [] => [[c]]

/-- Parts with a slash between each two. -/
def joinSegments : List (List Char) → List Char
  | [] => []
  | [s] => s
  | s :: ss => s ++ '/' :: joinSegments ss

/-- The first segment and the others. -/
def split (p : Path) : List Char × List (List Char) :=
  match segments p.text.toList with
  | s :: ss => (s, ss)
  | [] => ([], [])

/-- The path with the given first segment and others; a first segment that is empty stands for
the root. -/
def ofSplit (absolute : Bool) (head : List Char) (tail : List (List Char)) : Path :=
  if tail = [] then ⟨if absolute then "/" else String.ofList head⟩
  else ⟨String.ofList (joinSegments (head :: tail))⟩

/-- A later segment that means nothing: one between two slashes, or the current folder. -/
def isIdle (segment : List Char) : Bool := segment = [] || segment = ['.']

/-- The component that a segment other than the first stands for. -/
def laterComponent? (segment : List Char) : Option Component :=
  if isIdle segment then none
  else if segment = ['.', '.'] then some .up
  else some (.name (String.ofList segment))

/-- The component that the first segment stands for, where `others` are the other segments. -/
def firstComponent? (segment : List Char) (others : List (List Char)) : Option Component :=
  if segment = [] then (if others = [] then none else some .root)
  else if segment = ['.'] then some .here
  else if segment = ['.', '.'] then some .up
  else some (.name (String.ofList segment))

/-- The steps of a path. -/
def components (p : Path) : List Component :=
  (firstComponent? p.split.1 p.split.2).toList ++ p.split.2.filterMap laterComponent?

/-- Whether two paths mean the same steps. -/
def same (p q : Path) : Bool := p.components = q.components

/-- Whether a path starts at the root of the file system. -/
def isAbsolute (p : Path) : Bool :=
  match p.text.toList with
  | '/' :: _ => true
  | _ => false

/-- Segments without the idle ones at their end. -/
def trimIdleEnd (tail : List (List Char)) : List (List Char) :=
  (tail.reverse.dropWhile isIdle).reverse

/-- The name of the file or folder that a path leads to, if its last step is a name. -/
def fileName? (p : Path) : Option String :=
  match p.components.getLast? with
  | some (.name text) => some text
  | _ => none

/-- The path without its last step; a path that is empty or just the root has none. -/
def parent? (p : Path) : Option Path :=
  let (head, tail) := p.split
  match trimIdleEnd tail with
  | [] => if head = [] then none else some ⟨""⟩
  | kept => some (ofSplit p.isAbsolute head (trimIdleEnd kept.dropLast))

/-- The path `p` seen from `base`. -/
def join (base p : Path) : Path :=
  if p.isAbsolute then p
  else if base.text.toList.getLast?.all (· == '/') then ⟨base.text ++ p.text⟩
  else ⟨base.text ++ "/" ++ p.text⟩

/-- The segments after the first `n` that are not idle. -/
def dropSteps : Nat → List (List Char) → List (List Char)
  | 0, tail => tail
  | _ + 1, [] => []
  | n + 1, s :: ss => if isIdle s then dropSteps (n + 1) ss else dropSteps n ss

/-- What is left of a path after the steps of `base`, if it starts with them. -/
def stripPrefix? (base p : Path) : Option Path :=
  if base.components.isPrefixOf p.components then
    let (head, tail) := p.split
    match base.components.length with
    | 0 => some (ofSplit p.isAbsolute head (trimIdleEnd tail))
    | n + 1 =>
      let rest := trimIdleEnd ((dropSteps n tail).dropWhile isIdle)
      some ⟨String.ofList (joinSegments rest)⟩
  else none

end Path

end CommandTemplates
