/-
Preparing a command: the first pass, the preactions, the other passes.

If the first pass leaves an error, no preaction runs, so nobody is asked for a
command that cannot be prepared.  The first preaction that fails or is cancelled
ends the preparation.
-/
import CommandTemplates.Host

namespace CommandTemplates

/-- A command ready to be run. -/
structure PreparedCommand where
  id : CommandId
  shell : String
  command : String
  title : String
  confirmExecution : Bool
  ignoreErrorCodes : List Int
  deriving DecidableEq, Repr

/-- What became of a preparation. -/
inductive Preparation where
  | ready (prepared : PreparedCommand)
  /-- The user cancelled a prompt. -/
  | cancelled
  | failed (messages : List String)
  deriving DecidableEq, Repr

/-- Runs preactions in their order; the first that fails or is cancelled decides the preparation. -/
def runPreactions {m : Type → Type} [Monad m] (channel : PromptChannel m) :
    List PromptPreaction → ValueStore → m (Option Preparation × ValueStore)
  | [], values => pure (none, values)
  | p :: rest, values => do
    match ← p.execute channel values with
    | (.ok true, values) => runPreactions channel rest values
    | (.ok false, values) => pure (some .cancelled, values)
    | (.error e, values) => pure (some (.failed [e.message]), values)

/-- The command that a finished expansion gives. -/
def Command.prepared (c : Command) (settings : Settings) (x : Expansion) : PreparedCommand :=
  let content (key : String) := ((x.result? key).bind (·.content)).getD ""
  { id := c.id
    shell := c.shell settings
    command := content Command.textKey
    title := content Command.titleKey
    confirmExecution := c.config.confirmExecution
    ignoreErrorCodes := c.config.ignoreErrorCodes }

/-- Prepares a command for an event, or for a direct start; the host after it has the values that
the preactions stored. -/
def Host.prepare {m : Type → Type} [Monad m] (channel : PromptChannel m) (h : Host)
    (c : Command) (event : Option Event) : m (Except OrderError Preparation × Host) :=
  let preactions := c.preactions h.settings h.registry
  let h := h.rememberPreactions c.id
  match (c.expansion h.settings h.registry).start (h.context event) with
  | .error e => pure (.error e, h)
  | .ok (false, x) => pure (.ok (.failed x.errors), h)
  | .ok (true, x) => do
    let (stopped, values) ← runPreactions channel preactions h.values
    let h := { h with values }
    match stopped with
    | some preparation => pure (.ok preparation, h)
    | none =>
      match x.finish (h.context event) with
      | .error e => pure (.error e, h)
      | .ok (false, x) => pure (.ok (.failed x.errors), h)
      | .ok (true, x) => pure (.ok (.ready (c.prepared h.settings x)), h)

end CommandTemplates
