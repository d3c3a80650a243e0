/-
TOML documents.

A document is read line by line into a tree of tables (`Node`).  The tree knows
how each table came about, because a table may be given a header only once and
dotted keys may add only to tables that dotted keys made:

* `Node` — a value, a table with its origin, or a list of tables that headers add to;
* `assign` — what a `key = value` line does, with the dots of its key;
* `openTable` and `openElement` — what the lines `[a.b]` and `[[a.b]]` do;
* `parse?` — the data of a document, if it is well formed.
-/
import CommandTemplates.Data.Toml.Scalar

namespace CommandTemplates.Toml

/-- How a table came about. -/
inductive Origin where
  /-- By a header of its own. -/
  | header
  /-- By the header of a table inside it. -/
  | implied
  /-- By the dots of a key. -/
  | dotted
  deriving DecidableEq, Repr

/-- A part of a document being read. -/
inductive Node where
  | leaf (v : Value)
  | table (origin : Origin) (entries : List (String × Node))
  /-- Tables under one header, the last one being open. -/
  | tables (elements : List (List (String × Node)))

/-- The entries of a table being read. -/
abbrev Entries := List (String × Node)

/-- Changes or makes the entry of a key, if `f` allows it. -/
def alter (key : String) (f : Option Node → Option Node) : Entries → Option Entries
  | [] => (f none).map fun node => [(key, node)]
  | (k, node) :: rest =>
    if k = key then (f (some node)).map fun node => (k, node) :: rest
    else (alter key f rest).map ((k, node) :: ·)

/-- Changes the last element, if there is one and `f` allows it. -/
def alterLast (f : Entries → Option Entries) (elements : List Entries) :
    Option (List Entries) :=
  match elements.getLast? with
  | some last => (f last).map fun last => elements.dropLast ++ [last]
  | none => none

/-- Gives a value to a key under a dotted path.  `isOpen` says whether the table at hand takes keys:
a table reached by dots takes them only if dots made it. -/
def assign (isOpen : Bool) (key : String) (v : Value) : List String → Entries → Option Entries
  | [], entries =>
    if isOpen then alter key (fun node => if node.isNone then some (.leaf v) else none) entries
    else none
  | k :: path, entries =>
    alter k
      (fun
        | none => (assign true key v path []).map (.table .dotted)
        | some (.table .dotted inner) => (assign true key v path inner).map (.table .dotted)
        | some (.table .implied inner) => (assign false key v path inner).map (.table .implied)
        | some (.tables elements) =>
          (alterLast (assign false key v path) elements).map .tables
        | some _ => none)
      entries

/-- Changes the table that a path of headers leads to, making the tables on the way. -/
def within (f : Entries → Option Entries) : List String → Entries → Option Entries
  | [], entries => f entries
  | k :: path, entries =>
    alter k
      (fun
        | none => (within f path []).map (.table .implied)
        | some (.table origin inner) => (within f path inner).map (.table origin)
        | some (.tables elements) => (alterLast (within f path) elements).map .tables
        | some (.leaf _) => none)
      entries

/-- Opens the table of a header: a new one, or one that inner headers have made already.  Tables
stand in the order of their own headers, so the open one is the last. -/
def openTable (key : String) (entries : Entries) : Option Entries :=
  match entries.lookup key with
  | none => some (entries ++ [(key, .table .header [])])
  | some (.table .implied inner) =>
    some (entries.filter (·.1 ≠ key) ++ [(key, .table .header inner)])
  | some _ => none

/-- Opens a new element under a header of a list of tables. -/
def openElement (key : String) : Entries → Option Entries :=
  alter key fun
    | none => some (.tables [[]])
    | some (.tables elements) => some (.tables (elements ++ [[]]))
    | some _ => none

mutual

/-- The data of a part of a document. -/
def Node.toValue : Node → Value
  | .leaf v => v
  | .table _ entries => .table (entriesToValues entries)
  | .tables elements => .list (elementsToValues elements)

/-- The data of the entries of a table. -/
def entriesToValues : List (String × Node) → List (String × Value)
  | [] => []
  | (k, node) :: rest => (k, node.toValue) :: entriesToValues rest

/-- The data of a list of tables. -/
def elementsToValues : List (List (String × Node)) → List Value
  | [] => []
  | entries :: rest => .table (entriesToValues entries) :: elementsToValues rest

end

/-- One more than the number of levels that values may be nested in, and that a key may have. -/
def depthLimit : Nat := 80

/-- Characters of a key without quotes. -/
def isKeyCharacter (c : Char) : Bool :=
  ('A' ≤ c && c ≤ 'Z') || ('a' ≤ c && c ≤ 'z') || ('0' ≤ c && c ≤ '9') || c = '-' || c = '_'

/-- Reads one key. -/
def readKey? (cs : List Char) : Option (String × List Char) :=
  match cs with
  | '"' :: rest =>
    (readBasic? (rest.length + 1) rest).map fun (key, rest) => (String.ofList key, rest)
  | '\'' :: rest => (readLiteral? rest).map fun (key, rest) => (String.ofList key, rest)
  | cs =>
    match cs.takeWhile isKeyCharacter with
    | [] => none
    | key => some (String.ofList key, cs.dropWhile isKeyCharacter)

/-- Reads keys with dots between them; `fuel` bounds their number. -/
def readKeys? : Nat → List Char → Option (List String × List Char)
  | 0, _ => none
  | fuel + 1, cs => do
    let (key, rest) ← readKey? (skipBlanks cs)
    match skipBlanks rest with
    | '.' :: rest => (readKeys? fuel rest).map fun (keys, rest) => (key :: keys, rest)
    | rest => some ([key], rest)

/-- Reads a dotted key: the path before its last part, and that part. -/
def readDottedKey? (cs : List Char) : Option (List String × String × List Char) := do
  let (keys, rest) ← readKeys? (depthLimit - 1) cs
  let key ← keys.getLast?
  return (keys.dropLast, key, rest)

/-- A text without the blanks, line ends and comments at its start; `fuel` bounds the number of
comments. -/
def skipFiller : Nat → List Char → List Char
  | 0, cs => cs
  | fuel + 1, cs =>
    match skipBlankLines cs with
    | '#' :: rest => skipFiller fuel (rest.dropWhile isPlain)
    | cs => cs

mutual

/-- Reads a value inside `depth` others; `fuel` bounds the number of steps. -/
def readValue? : Nat → Nat → List Char → Option (Value × List Char)
  | 0, _, _ => none
  | fuel + 1, depth, cs =>
    match cs with
    | '[' :: rest =>
      if depth + 1 < depthLimit then
        (readItems? fuel (depth + 1) (skipFiller rest.length rest)).map fun (items, rest) =>
          (.list items, rest)
      else none
    | '{' :: rest =>
      if depth + 1 < depthLimit then
        match skipBlanks rest with
        | '}' :: rest => some (.table [], rest)
        | rest =>
          (readPairs? fuel (depth + 1) [] rest).map fun (entries, rest) =>
            (.table (entriesToValues entries), rest)
      else none
    | cs => readScalar? cs

/-- Reads the items of a list up to its closing bracket; a comma may stand after the last. -/
def readItems? : Nat → Nat → List Char → Option (List Value × List Char)
  | 0, _, _ => none
  | _ + 1, _, ']' :: rest => some ([], rest)
  | fuel + 1, depth, cs => do
    let (first, cs) ← readValue? fuel depth cs
    match skipFiller cs.length cs with
    | ',' :: rest =>
      (readItems? fuel depth (skipFiller rest.length rest)).map fun (items, rest) =>
        (first :: items, rest)
    | ']' :: rest => some ([first], rest)
    | _ => none

/-- Reads the pairs of a table on one line, at least one, up to its closing bracket. -/
def readPairs? : Nat → Nat → Entries → List Char → Option (Entries × List Char)
  | 0, _, _, _ => none
  | fuel + 1, depth, entries, cs => do
    let (path, key, cs) ← readDottedKey? cs
    match cs with
    | '=' :: rest =>
      let (v, cs) ← readValue? fuel depth (skipBlanks rest)
      let entries ← assign true key v path entries
      match skipBlanks cs with
      | ',' :: rest => readPairs? fuel depth entries rest
      | '}' :: rest => some (entries, rest)
      | _ => none
    | _ => none

end

/-- A document being read: its tables so far, and the path of the table that lines add to. -/
structure Draft where
  entries : Entries := []
  current : List String := []

/-- Reads a header after its opening bracket or brackets: the path of its table and the text after
the line. -/
def readHeader? (closing : List Char) (cs : List Char) :
    Option (List String × String × List Char) := do
  let (path, key, cs) ← readDottedKey? cs
  if closing.isPrefixOf cs then
    return (path, key, ← readLineEnd? (cs.drop closing.length))
  else none

/-- Reads one line that is not blank. -/
def readLine? (draft : Draft) (cs : List Char) : Option (Draft × List Char) :=
  match cs with
  | '[' :: '[' :: rest => do
    let (path, key, rest) ← readHeader? [']', ']'] rest
    return (⟨← within (openElement key) path draft.entries, path ++ [key]⟩, rest)
  | '[' :: rest => do
    let (path, key, rest) ← readHeader? [']'] rest
    return (⟨← within (openTable key) path draft.entries, path ++ [key]⟩, rest)
  | cs => do
    let (path, key, rest) ← readDottedKey? cs
    let (v, rest) ← readValue? (2 * rest.length + 2) 0 (skipBlanks (← takeEquals? rest))
    let rest ← readLineEnd? rest
    let entries ← within (assign true key v path) draft.current draft.entries
    return ({ draft with entries }, rest)
where
  /-- Reads an equals sign. -/
  takeEquals? : List Char → Option (List Char)
    | '=' :: rest => some rest
    | _ => none

/-- Reads the lines of a document; `fuel` bounds their number. -/
def readLines? : Nat → Draft → List Char → Option Draft
  | 0, _, _ => none
  | fuel + 1, draft, cs =>
    match skipBlanks cs with
    | [] => some draft
    | '\n' :: rest | '\r' :: '\n' :: rest => readLines? fuel draft rest
    | '#' :: rest => do readLines? fuel draft (← readLineEnd? ('#' :: rest))
    | cs => do
      let (draft, rest) ← readLine? draft cs
      readLines? fuel draft rest

/-- The entries of a document, if it is well formed.  A mark of the byte order may come first. -/
def parse? (text : String) : Option (List (String × Value)) :=
  let cs :=
    match text.toList with
    | '\uFEFF' :: rest => rest
    | cs => cs
  (readLines? (cs.length + 1) {} cs).map fun draft => entriesToValues draft.entries

end CommandTemplates.Toml
