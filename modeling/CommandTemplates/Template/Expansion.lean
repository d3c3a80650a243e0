/-
Expansion of templates in passes.

An expansion has several named templates, its targets, and a list of variable
sets.  Pass `i` replaces the placeholders of the variables in set `i` and leaves
those of later sets as they are written, so that between two passes values can
be provided.  `start` runs pass 0 and `finish` all others; each works once.

Between passes a target is a list of segments.  A resolved segment is output and
never read again; a pending one is template text, with the offset where it
stands in the template, so that every error names the place of its placeholder
in the template as it was given.

Values are remembered by variable name and argument texts (`Memo`), so no value
is made twice, not even one that failed.  A target with an error is left alone
by later passes.
-/
import CommandTemplates.Data.SortedMap
import CommandTemplates.Template.Token
import CommandTemplates.Variable.Fallback

namespace CommandTemplates

/-- A part of a target. -/
inductive Segment where
  /-- Output. -/
  | resolved (text : String)
  /-- Template text that starts at byte `origin` of the template. -/
  | pending (text : String) (origin : Nat)
  deriving DecidableEq, Repr

/-- The text of a part. -/
def Segment.text : Segment → String
  | .resolved text | .pending text _ => text

/-- A value that placeholders ask for. -/
structure Request where
  name : String
  arguments : List String
  deriving DecidableEq, Repr

/-- A value that was made: the pass that made it and what was asked for. -/
structure Generation where
  pass : Nat
  request : Request
  deriving DecidableEq, Repr

/-- The results so far, and every value that a variable was asked to make, in order. -/
structure Memo where
  results : Dictionary Request (Except VariableError String) := .empty
  generated : List Generation := []

/-- What is the same for all targets of a pass. -/
structure Pass where
  index : Nat
  available : VariableSet
  known : VariableSet
  fallbacks : SortedMap Fallback
  context : Context

namespace Pass

/-- The result for a request, from the memo or, the first time, from the variable. -/
def result (pass : Pass) (memo : Memo) (v : Variable) (request : Request)
    (arguments : Arguments) : Except VariableError String × Memo :=
  match memo.results.get? request with
  | some result => (result, memo)
  | none =>
    let result := v.resolve arguments pass.context
    let generated :=
      if (v.refusal? pass.context).isNone then memo.generated ++ [⟨pass.index, request⟩]
      else memo.generated
    (result, ⟨memo.results.insert request result, generated⟩)

/-- The segment that replaces a token, the error message if there is one, and the memo after it.
`origin` is the offset of the text that the token is found in. -/
def expandToken (pass : Pass) (origin : Nat) (memo : Memo) :
    Token → Segment × Option String × Memo
  | .escaped p => (.resolved p.unescaped, none, memo)
  | .rejected e =>
    (.pending e.text (origin + e.span.start), some (e.shift origin).message, memo)
  | .value p v arguments =>
    let (result, memo) := pass.result memo v ⟨p.name, p.arguments⟩ arguments
    match Fallback.apply (pass.fallbacks.get? v.identifier) result with
    | .ok text => (.resolved text, none, memo)
    | .error e => (.pending p.source (origin + p.span.start), some e.message, memo)

/-- The pending segment of a text, unless it is empty. -/
def pendingText (origin : Nat) (text : List Char) : List Segment :=
  if text = [] then [] else [.pending (String.ofList text) origin]

/-- The segments that replace the pieces of a text, the error messages and the memo.  `held` is the
text since the last token, which starts at byte `start` of the text. -/
def expandPieces (pass : Pass) (origin : Nat) (tail : List Char) (memo : Memo)
    (held : List Char) (start : Nat) :
    List (List Char × Placeholder) → List Segment × List String × Memo
  | [] => (pendingText (origin + start) (held ++ tail), [], memo)
  | (before, p) :: rest =>
    match Token.classify pass.available pass.known p with
    | none => pass.expandPieces origin tail memo (held ++ before ++ p.source.toList) start rest
    | some token =>
      let (segment, error, memo) := pass.expandToken origin memo token
      let (segments, errors, memo) := pass.expandPieces origin tail memo [] p.span.stop rest
      (pendingText (origin + start) (held ++ before) ++ segment :: segments,
        error.toList ++ errors, memo)

/-- The segments that replace a pending text. -/
def expandText (pass : Pass) (memo : Memo) (text : String) (origin : Nat) :
    List Segment × List String × Memo :=
  let (pieces, tail) := Placeholder.cut text
  pass.expandPieces origin tail memo [] 0 pieces

/-- The segments that replace a list of segments. -/
def expandSegments (pass : Pass) (memo : Memo) :
    List Segment → List Segment × List String × Memo
  | [] => ([], [], memo)
  | .resolved text :: rest =>
    let (segments, errors, memo) := pass.expandSegments memo rest
    (.resolved text :: segments, errors, memo)
  | .pending text origin :: rest =>
    let (first, firstErrors, memo) := pass.expandText memo text origin
    let (segments, errors, memo) := pass.expandSegments memo rest
    (first ++ segments, firstErrors ++ errors, memo)

end Pass

/-- A template on its way to its output. -/
structure Target where
  template : String
  segments : List Segment
  errors : List String := []
  succeeded : Bool := false
  deriving DecidableEq, Repr

namespace Target

/-- A template before the first pass. -/
def ofTemplate (template : String) : Target := ⟨template, [.pending template 0], [], false⟩

/-- Whether the target has an error. -/
def isFailed (t : Target) : Bool := !t.errors.isEmpty

/-- The text of the target so far. -/
def content (t : Target) : String := String.join (t.segments.map (·.text))

/-- The messages with one more at the end, unless it is among them. -/
def report (errors : List String) (message : String) : List String :=
  if message ∈ errors then errors else errors ++ [message]

/-- The target after a pass. -/
def run (pass : Pass) (memo : Memo) (t : Target) : Target × Memo :=
  if t.isFailed then (t, memo)
  else
    let (segments, errors, memo) := pass.expandSegments memo t.segments
    ({ t with segments, errors := errors.foldl report t.errors }, memo)

/-- The target after the last pass. -/
def close (t : Target) : Target := { t with succeeded := !t.isFailed }

end Target

/-- What became of a target. -/
structure TargetResult where
  template : String
  /-- The expansion so far; `none` once there is an error. -/
  content : Option String
  succeeded : Bool
  errors : List String
  deriving DecidableEq, Repr

/-- What became of a target. -/
def Target.result (t : Target) : TargetResult :=
  ⟨t.template, if t.isFailed then none else some t.content, t.succeeded, t.errors⟩

/-- Where an expansion stands. -/
inductive Phase where
  | created
  /-- The pass that is next. -/
  | passPending (pass : Nat)
  | succeeded
  | failed
  deriving DecidableEq, Repr

/-- A call out of order. -/
inductive OrderError where
  | alreadyStarted
  | notStarted
  | alreadyFinished
  deriving DecidableEq, Repr

/-- The wording of a call out of order. -/
def OrderError.message : OrderError → String
  | .alreadyStarted => "process() was already called"
  | .notStarted => "process_rest() called before process()"
  | .alreadyFinished => "parsing process has already finished"

/-- Templates being expanded in passes. -/
structure Expansion where
  sets : List VariableSet
  fallbacks : SortedMap Fallback := .empty
  targets : Dictionary String Target := .empty
  memo : Memo := {}
  phase : Phase := .created

namespace Expansion

/-- Adds a target; a repeated key replaces the earlier template. -/
def addTarget (x : Expansion) (key template : String) : Expansion :=
  { x with targets := x.targets.insert key (.ofTemplate template) }

/-- The variables of all passes; of equal names the first counts. -/
def known (x : Expansion) : VariableSet := x.sets.foldl VariableSet.merge .empty

/-- Whether a target has an error. -/
def anyFailed (x : Expansion) : Bool := x.targets.values.any (·.isFailed)

/-- Runs one pass over the targets, in their order. -/
def runPass (x : Expansion) (ctx : Context) (index : Nat) : Expansion :=
  match x.sets[index]? with
  | none => x
  | some available =>
    let pass : Pass := ⟨index, available, x.known, x.fallbacks, ctx⟩
    let (targets, memo) := x.targets.passValues (Target.run pass) x.memo
    { x with targets, memo }

/-- Runs pass 0.  The answer is whether no target has an error. -/
def start (x : Expansion) (ctx : Context) : Except OrderError (Bool × Expansion) :=
  match x.phase with
  | .created =>
    let x := { x.runPass ctx 0 with phase := .passPending 1 }
    .ok (!x.anyFailed, x)
  | _ => .error .alreadyStarted

/-- Runs the passes from `first` on. -/
def runFrom (x : Expansion) (ctx : Context) (first : Nat) : Expansion :=
  (List.range' first (x.sets.length - first)).foldl (fun x index => x.runPass ctx index) x

/-- The expansion after its last pass. -/
def close (x : Expansion) : Expansion :=
  { x with
    targets := x.targets.mapValues Target.close
    phase := if x.anyFailed then .failed else .succeeded }

/-- Runs all passes after pass 0.  The answer is whether every target succeeded. -/
def finish (x : Expansion) (ctx : Context) : Except OrderError (Bool × Expansion) :=
  match x.phase with
  | .created => .error .notStarted
  | .succeeded | .failed => .error .alreadyFinished
  | .passPending first =>
    let x := (x.runFrom ctx first).close
    .ok (!x.anyFailed, x)

/-- What became of the targets, in their order. -/
def results (x : Expansion) : List (String × TargetResult) :=
  x.targets.entries.map fun (key, t) => (key, t.result)

/-- What became of one target. -/
def result? (x : Expansion) (key : String) : Option TargetResult :=
  (x.targets.get? key).map (·.result)

/-- The error messages of all targets, in the order of the targets. -/
def errors (x : Expansion) : List String := x.targets.values.flatMap (·.errors)

end Expansion

end CommandTemplates
