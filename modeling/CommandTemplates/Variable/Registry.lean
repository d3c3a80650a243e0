/-
The registry: the built-in variables and the custom ones of the user.

A custom variable is a record with a lasting id; its placeholder is its name
after an underscore, so it never meets a built-in one.  Names are words, and no
two names are the same in lowercase.

* `Registry.load` — the registry of configured records, each checked against those before it;
* `create`, `rename`, `describe`, `delete` — the edits;
* `snapshot` — the variables as they are now, built-in ones first.
-/
import CommandTemplates.Text.Casing
import CommandTemplates.Text.Classes
import CommandTemplates.Variable.Builtin
import CommandTemplates.Variable.Set

namespace CommandTemplates

/-- The record of a custom variable. -/
structure CustomVariable where
  id : VariableId
  name : String
  description : String := ""
  deriving DecidableEq, Repr

namespace CustomVariable

/-- The name in placeholders. -/
def placeholderName (record : CustomVariable) : String := "_" ++ record.name

/-- The variable of a record: it has the value stored under its id. -/
def toVariable (record : CustomVariable) : Variable where
  name := record.placeholderName
  identifier := record.id
  description := record.description
  generate _ ctx :=
    match ctx.values.get? record.id with
    | some value => .ok value
    | none => .error (.noValue record.placeholderName)

end CustomVariable

/-- Why an edit of a custom variable is refused. -/
inductive CustomVariableError where
  | invalidName (name : String)
  | duplicateName (name : String)
  | notFound (id : VariableId)
  deriving DecidableEq, Repr

/-- The wording of a refused edit. -/
def CustomVariableError.message : CustomVariableError → String
  | .invalidName name =>
    "The name " ++ braced ("_" ++ name) ++ " does not meet the naming requirements."
  | .duplicateName name => "The name " ++ braced ("_" ++ name) ++ " is already reserved."
  | .notFound id => "custom variable not found: " ++ id

/-- Whether a text can name a custom variable: it is one word. -/
def isVariableName (name : String) : Bool :=
  name ≠ "" && name.toList.all Text.isWordCharacter

/-- The built-in variables and the records of the custom ones. -/
structure Registry where
  custom : List CustomVariable := []
  deriving DecidableEq, Repr

namespace Registry

/-- Whether a record other than that of `owner` has the name, in lowercase. -/
def isTaken (r : Registry) (name : String) (owner : Option VariableId := none) : Bool :=
  r.custom.any fun c => some c.id ≠ owner && Text.lowercase c.name = Text.lowercase name

/-- Checks a name for the record of `owner`, or for a new one. -/
def validateName (r : Registry) (name : String) (owner : Option VariableId := none) :
    Except CustomVariableError Unit :=
  if !isVariableName name then .error (.invalidName name)
  else if r.isTaken name owner then .error (.duplicateName name)
  else .ok ()

/-- Adds a configured record. -/
def add (r : Registry) (record : CustomVariable) : Except CustomVariableError Registry :=
  (r.validateName record.name).map fun _ => ⟨r.custom ++ [record]⟩

/-- The registry of configured records, each checked against those before it. -/
def load (records : List CustomVariable) : Except CustomVariableError Registry :=
  records.foldlM add {}

/-- The record with an id. -/
def find? (r : Registry) (id : VariableId) : Option CustomVariable :=
  r.custom.find? fun c => c.id = id

/-- The placeholder name of the record with an id. -/
def placeholderName? (r : Registry) (id : VariableId) : Option String :=
  (r.find? id).map (·.placeholderName)

/-- The variables as they are now. -/
def snapshot (r : Registry) : VariableSet :=
  .ofList (Builtin.all ++ r.custom.map (·.toVariable))

/-- The variables of the given ids, unknown ones left out. -/
def select (r : Registry) (ids : List VariableId) : VariableSet :=
  .ofList ((ids.filterMap r.find?).map (·.toVariable))

/-- The least number from 1 on that names no record.  Among one more numbers than there are records
one is free. -/
def leastFreeNumber (r : Registry) : Nat :=
  ((List.range' 1 (r.custom.length + 1)).find? fun n => !r.isTaken (toString n)).getD 1

/-- Adds a record under a fresh id, named by the least free number. -/
def create (r : Registry) (freshId : VariableId) : CustomVariable × Registry :=
  let record : CustomVariable := ⟨freshId, toString r.leastFreeNumber, ""⟩
  (record, ⟨r.custom ++ [record]⟩)

/-- Changes the first record with an id. -/
def updateFirst (id : VariableId) (f : CustomVariable → CustomVariable) :
    List CustomVariable → List CustomVariable
  | [] => []
  | c :: rest => if c.id = id then f c :: rest else c :: updateFirst id f rest

/-- Changes the record with an id, if there is one. -/
def update (r : Registry) (id : VariableId) (f : CustomVariable → CustomVariable) :
    Except CustomVariableError Registry :=
  match r.find? id with
  | some _ => .ok ⟨updateFirst id f r.custom⟩
  | none => .error (.notFound id)

/-- Gives a record a new name. -/
def rename (r : Registry) (id : VariableId) (name : String) :
    Except CustomVariableError Registry := do
  r.validateName name (some id)
  r.update id fun c => { c with name }

/-- Gives a record a new description. -/
def describe (r : Registry) (id : VariableId) (description : String) :
    Except CustomVariableError Registry :=
  r.update id fun c => { c with description }

/-- Takes a record out. -/
def delete (r : Registry) (id : VariableId) :
    Except CustomVariableError (CustomVariable × Registry) :=
  match r.find? id with
  | some record => .ok (record, ⟨r.custom.eraseP fun c => c.id = id⟩)
  | none => .error (.notFound id)

end Registry

/-- A source of ids: a label and the number of the next id. -/
structure IdSource where
  label : String := "id"
  next : Nat := 1
  deriving DecidableEq, Repr

/-- The next id, and the source after it. -/
def IdSource.fresh (s : IdSource) : String × IdSource :=
  (s.label ++ "-" ++ toString s.next, { s with next := s.next + 1 })

end CommandTemplates
