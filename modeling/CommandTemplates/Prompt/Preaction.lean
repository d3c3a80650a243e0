/-
Preactions: steps between the first pass of an expansion and the others.

The one kind there is shows a prompt and stores its answers as values of custom
variables, all of them or, if a required field is left empty, none
(`assignments`).
-/
import CommandTemplates.Prompt.Channel

namespace CommandTemplates

/-- Why a preaction fails. -/
inductive PreactionError where
  | promptNotFound (id : PromptId)
  | requiredEmpty (promptTitle fieldLabel : String)
  | channel (e : PromptError)
  deriving DecidableEq, Repr

/-- The wording of a preaction's failure. -/
def PreactionError.message : PreactionError → String
  | .promptNotFound id => s!"prompt not found: {id}"
  | .requiredEmpty promptTitle fieldLabel => s!"{promptTitle}: field '{fieldLabel}' is required"
  | .channel e => e.message

/-- A prompt to show, and the variables that get their values from it. -/
structure PromptPreaction where
  promptId : PromptId
  /-- The prompt; `none` if there is no prompt with the id. -/
  prompt : Option PromptConfig
  dependent : VariableSet

namespace PromptPreaction

/-- The name of this kind of step. -/
def kind (_ : PromptPreaction) : String := "prompt"

/-- The values that answers assign, in the order of the fields.  A missing answer is an empty one;
surplus answers are passed over. -/
def assignments (promptTitle : String) :
    List PromptField → List String → Except PreactionError (List (VariableId × String))
  | [], _ => .ok []
  | field :: fields, answers =>
    let answer := answers.head?.getD ""
    if field.required && answer = "" then .error (.requiredEmpty promptTitle field.label)
    else (assignments promptTitle fields answers.tail).map ((field.target, answer) :: ·)

/-- The store after some assignments, in their order. -/
def store (values : ValueStore) (assigned : List (VariableId × String)) : ValueStore :=
  assigned.foldl (fun values a => values.insert a.1 a.2) values

/-- Runs the step: whether the user answered, and the store after it. -/
def execute {m : Type → Type} [Monad m] (channel : PromptChannel m) (values : ValueStore)
    (p : PromptPreaction) : m (Except PreactionError Bool × ValueStore) :=
  match p.prompt with
  | none => pure (.error (.promptNotFound p.promptId), values)
  | some prompt => do
    match ← channel.ask prompt with
    | .error e => pure (.error (.channel e), values)
    | .ok none => pure (.ok false, values)
    | .ok (some answers) =>
      match assignments prompt.title prompt.fields answers with
      | .error e => pure (.error e, values)
      | .ok assigned => pure (.ok true, store values assigned)

end PromptPreaction

end CommandTemplates
