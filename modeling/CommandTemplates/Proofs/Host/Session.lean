/-
Sessions: what can be done with a host from when it is opened.

An action is an edit of the custom variables or of a command, a value given to a custom
variable, or a use of a command, which may make the host remember the command's
preactions.  An action that fails leaves the host as it was (`Host.perform`).

`Host.Step` says what each action can do to a host, so that what every action preserves is
proved by its cases; `Host.Reachable.invariant` carries it over to every host that a
session can reach.

* `Host.step_perform` — every action takes one of its steps;
* `Host.Reachable.invariant` — what holds of opened hosts and is preserved by every
  step holds of every reachable host;
* `Host.FreshReachable` — the sessions in which no new custom variable gets an id that is
  in use, with an invariant lemma of their own.
-/
import CommandTemplates.Proofs.Preparation.Course

namespace CommandTemplates

/-- An edit of a command. -/
inductive CommandEdit where
  | addPreaction (config : PreactionConfig)
  | setPreactionEnabled (index : Nat) (enabled : Bool)
  | enableEvent (kind : EventKind)
  | disableEvent (kind : EventKind)
  | forgetPreactions
  deriving DecidableEq, Repr

/-- The command after an edit.  Switching a step that is not there changes nothing. -/
def CommandEdit.apply : CommandEdit → Command → Command
  | .addPreaction config, c => c.addPreaction config
  | .setPreactionEnabled index enabled, c => (c.setPreactionEnabled? index enabled).getD c
  | .enableEvent kind, c => c.enableEvent kind
  | .disableEvent kind, c => c.disableEvent kind
  | .forgetPreactions, c => c.forget

/-- The command after some edits, one after the other. -/
def Command.edit (c : Command) (edits : List CommandEdit) : Command :=
  edits.foldl (fun c edit => edit.apply c) c

namespace Host

/-- Something that can be done with a host. -/
inductive Action where
  /-- Adds a custom variable under the id that the source of ids gives. -/
  | createVariable (freshId : VariableId)
  | renameVariable (id : VariableId) (name : String)
  | describeVariable (id : VariableId) (description : String)
  | deleteVariable (id : VariableId)
  | editCommand (id : CommandId) (edits : List CommandEdit)
  | setValue (id : VariableId) (value : String)
  /-- Asks for the title of a command. -/
  | preview (id : CommandId)
  /-- Asks for the variables that depend on the preactions of a command, or for those that do
  not. -/
  | inspect (id : CommandId)
  /-- Prepares a command; the user gives the replies to its prompts. -/
  | prepare (id : CommandId) (event : Option Event) (replies : List PromptReply)

/-- The host after an action.  One that fails leaves it as it was. -/
def perform (h : Host) : Action → Host
  | .createVariable freshId => (h.createVariable freshId).2
  | .renameVariable id name => (h.renameVariable id name).toOption.getD h
  | .describeVariable id description => (h.describeVariable id description).toOption.getD h
  | .deleteVariable id => ((h.deleteVariable id).toOption.map Prod.snd).getD h
  | .editCommand id edits => (h.editCommand id (·.edit edits)).toOption.getD h
  | .setValue id value => h.setValue id value
  | .preview id => ((h.command? id).map fun c => (h.preview c).2).getD h
  | .inspect id => h.rememberPreactions id
  | .prepare id event replies =>
    match h.command? id with
    | some c => ((h.prepare Script.channel c event).run { replies }).1.2
    | none => h

/-- The hosts that a session can reach. -/
inductive Reachable : Host → Prop
  | opened {settings : Settings} {environment : Environment} {h : Host} :
    ofSettings settings environment = .ok h → Reachable h
  | performed {h : Host} (action : Action) : Reachable h → Reachable (h.perform action)

/-- The host with a command edited, in its commands and in its settings. -/
def withCommand (h : Host) (id : CommandId) (edited : Command) : Host :=
  { h with
    commands := updateCommand id (fun _ => edited) h.commands
    settings :=
      { h.settings with commands := replaceConfig id edited.config h.settings.commands } }

/-- The host without a custom variable, its value and the prompt fields that ask for it. -/
def withoutVariable (h : Host) (id : VariableId) (registry : Registry) : Host :=
  { h with
    settings := { h.settings with prompts := dropTarget id h.settings.prompts }
    values := h.values.erase id }.withRegistry registry

/-- What each action can do to a host. -/
inductive Step (h : Host) : Action → Host → Prop
  | refused {action : Action} : Step h action h
  | created (freshId : VariableId) :
    Step h (.createVariable freshId) (h.withRegistry (h.registry.create freshId).2)
  | renamed {id : VariableId} {name : String} {registry : Registry} :
    h.registry.rename id name = .ok registry →
    Step h (.renameVariable id name) (h.withRegistry registry)
  | described {id : VariableId} {description : String} {registry : Registry} :
    h.registry.describe id description = .ok registry →
    Step h (.describeVariable id description) (h.withRegistry registry)
  | deleted {id : VariableId} {record : CustomVariable} {registry : Registry} :
    h.registry.delete id = .ok (record, registry) →
    Step h (.deleteVariable id) (h.withoutVariable id registry)
  | edited {id : CommandId} {c : Command} (edits : List CommandEdit) :
    h.command? id = some c → Step h (.editCommand id edits) (h.withCommand id (c.edit edits))
  | valueSet (id : VariableId) (value : String) : Step h (.setValue id value) (h.setValue id value)
  | previewed {id : CommandId} {c : Command} :
    h.command? id = some c → Step h (.preview id) (h.rememberPreactions c.id)
  | inspected (id : CommandId) : Step h (.inspect id) (h.rememberPreactions id)
  | prepared {id : CommandId} {c : Command} {event : Option Event} {replies : List PromptReply}
      {outcome : Preparation} {values : ValueStore} {exchanges : List Exchange} :
    h.command? id = some c → h.Prepares c event outcome values exchanges →
    Step h (.prepare id event replies) { h.rememberPreactions c.id with values }

variable {h : Host}

theorem step_rename (id : VariableId) (name : String) :
    h.Step (.renameVariable id name) (h.perform (.renameVariable id name)) := by
  show h.Step _ ((h.renameVariable id name).toOption.getD h)
  rw [renameVariable]
  cases hrename : h.registry.rename id name with
  | error e => exact .refused
  | ok registry => exact .renamed hrename

theorem step_describe (id : VariableId) (description : String) :
    h.Step (.describeVariable id description) (h.perform (.describeVariable id description)) := by
  show h.Step _ ((h.describeVariable id description).toOption.getD h)
  rw [describeVariable]
  cases hdescribe : h.registry.describe id description with
  | error e => exact .refused
  | ok registry => exact .described hdescribe

theorem step_delete (id : VariableId) :
    h.Step (.deleteVariable id) (h.perform (.deleteVariable id)) := by
  show h.Step _ (((h.deleteVariable id).toOption.map Prod.snd).getD h)
  rw [deleteVariable]
  cases hdelete : h.registry.delete id with
  | error e => exact .refused
  | ok found => exact .deleted hdelete

theorem step_edit (id : CommandId) (edits : List CommandEdit) :
    h.Step (.editCommand id edits) (h.perform (.editCommand id edits)) := by
  show h.Step _ ((h.editCommand id (·.edit edits)).toOption.getD h)
  rw [editCommand, requireCommand]
  cases hcommand : h.command? id with
  | none => exact .refused
  | some c => exact .edited edits hcommand

theorem step_preview (id : CommandId) : h.Step (.preview id) (h.perform (.preview id)) := by
  show h.Step _ (((h.command? id).map fun c => (h.preview c).2).getD h)
  cases hcommand : h.command? id with
  | none => exact .refused
  | some c => exact .previewed hcommand

theorem step_prepare (id : CommandId) (event : Option Event) (replies : List PromptReply) :
    h.Step (.prepare id event replies) (h.perform (.prepare id event replies)) := by
  rw [perform]
  cases hcommand : h.command? id with
  | none => exact .refused
  | some c =>
    obtain ⟨outcome, values, exchanges, s', hrun, hprepares⟩ :=
      prepare_recorded Script.channel { replies } [] h c event
    have hplain := prepare_of_recorded Script.channel { replies } [] h c event
    rw [hrun] at hplain
    show h.Step _ (h.prepare Script.channel c event { replies }).1.2
    rw [hplain]
    exact .prepared hcommand hprepares

/-- Every action takes one of its steps. -/
theorem step_perform (h : Host) (action : Action) : h.Step action (h.perform action) := by
  cases action with
  | createVariable freshId => exact .created freshId
  | renameVariable id name => exact step_rename id name
  | describeVariable id description => exact step_describe id description
  | deleteVariable id => exact step_delete id
  | editCommand id edits => exact step_edit id edits
  | setValue id value => exact .valueSet id value
  | preview id => exact step_preview id
  | inspect id => exact .inspected id
  | prepare id event replies => exact step_prepare id event replies

/-- What opened hosts have and every step preserves is true of every reachable host. -/
theorem Reachable.invariant {P : Host → Prop}
    (hopened : ∀ settings environment h, ofSettings settings environment = .ok h → P h)
    (hstep : ∀ h action h', P h → h.Step action h' → P h') (hreachable : h.Reachable) : P h := by
  induction hreachable with
  | opened hopen => exact hopened _ _ _ hopen
  | performed action _ ih => exact hstep _ _ _ ih (step_perform _ action)

/-! ### Sources of ids -/

/-- Whether an action adds no custom variable under an id that is in use. -/
def Action.IsFresh (h : Host) : Action → Prop
  | .createVariable freshId => freshId ∉ h.registry.custom.map (·.id)
  | _ => True

instance (h : Host) (action : Action) : Decidable (action.IsFresh h) := by
  cases action <;> unfold Action.IsFresh <;> infer_instance

/-- The hosts that a session can reach if the source of ids never gives one that is in use. -/
inductive FreshReachable : Host → Prop
  | opened {settings : Settings} {environment : Environment} {h : Host} :
    ofSettings settings environment = .ok h → FreshReachable h
  | performed {h : Host} {action : Action} :
    action.IsFresh h → FreshReachable h → FreshReachable (h.perform action)

theorem FreshReachable.reachable (hreachable : h.FreshReachable) : h.Reachable := by
  induction hreachable with
  | opened hopen => exact .opened hopen
  | performed _ _ ih => exact .performed _ ih

theorem FreshReachable.invariant {P : Host → Prop}
    (hopened : ∀ settings environment h, ofSettings settings environment = .ok h → P h)
    (hstep : ∀ h action h', P h → action.IsFresh h → h.Step action h' → P h')
    (hreachable : h.FreshReachable) : P h := by
  induction hreachable with
  | opened hopen => exact hopened _ _ _ hopen
  | performed hfresh _ ih => exact hstep _ _ _ ih hfresh (step_perform _ _)

/-- What the opening of a host checks and builds. -/
theorem ofSettings_eq_ok {settings : Settings} {environment : Environment}
    (hopen : ofSettings settings environment = .ok h) :
    settings.violation? = none ∧ Registry.load settings.customVariables = .ok h.registry ∧
      h.settings = settings ∧ h.commands = settings.commands.map fun config => { config } := by
  unfold ofSettings Settings.validate at hopen
  cases hviolation : settings.violation? with
  | some e => simp [hviolation, bind, Except.bind, Except.mapError] at hopen
  | none =>
    cases hload : Registry.load settings.customVariables with
    | error e => simp [hviolation, hload, bind, Except.bind, Except.mapError] at hopen
    | ok registry =>
      simp only [hviolation, hload, bind, Except.bind, Except.mapError, pure, Except.pure,
        Except.ok.injEq] at hopen
      subst hopen
      exact ⟨rfl, rfl, rfl, rfl⟩

end Host

/-! ### A small host -/

/-- Settings with a prompt for their one custom variable, and a command that shows it. -/
def Settings.oneQuestion (text : String) : Settings where
  customVariables := [⟨"id-1", "target", ""⟩]
  prompts := [{
    id := "p", title := "Pick", fields := [{ label := "Target", target := "id-1" }] }]
  commands := [{
    id := "c", command := { default := text }, preactions := [{ kind := .prompt "p" }] }]

/-- The host of these settings when it is opened. -/
def Host.oneQuestion (text : String) : Host where
  settings := .oneQuestion text
  registry := ⟨(Settings.oneQuestion text).customVariables⟩
  environment := { root := ⟨"/"⟩, now := ⟨0, 0, 0⟩ }
  commands := (Settings.oneQuestion text).commands.map fun config => { config }

theorem Host.ofSettings_oneQuestion (text : String) :
    ofSettings (.oneQuestion text) (oneQuestion text).environment = .ok (oneQuestion text) := by
  have hviolation : (Settings.oneQuestion text).violation? = none := rfl
  have hload : Registry.load (Settings.oneQuestion text).customVariables =
      .ok (oneQuestion text).registry := by
    show Registry.load [⟨"id-1", "target", ""⟩] = .ok ⟨[⟨"id-1", "target", ""⟩]⟩
    decide +kernel
  rw [ofSettings, Settings.validate, hviolation, hload]
  rfl

theorem Host.freshReachable_oneQuestion (text : String) : (Host.oneQuestion text).FreshReachable :=
  .opened (ofSettings_oneQuestion text)

theorem Host.reachable_oneQuestion (text : String) : (Host.oneQuestion text).Reachable :=
  (freshReachable_oneQuestion text).reachable

end CommandTemplates
