/-
Edits of a host happen as a whole or not at all.

An edit checks several things and changes several parts: the registry, the values, the
prompts, the copies in the settings and what the commands remember.  A program that
makes these changes one after the other, in place, keeps those it has made when it fails
(`Host.Edit.inPlace`).  It never fails after the first one, so it comes to what the edits
of a host say.

* `Host.Refuses`, `Refuses.apply_eq` — which edits are refused, and why;
* `Host.Edit.inPlace`, `Host.run_inPlace` — the edits in place are the edits of a host;
* `Host.Done`, `Host.refuses_or_done` — what any other edit changes, and that this is all;
* `Host.unchanged_or_done` — what this comes to in a session.
-/
import CommandTemplates.Proofs.Host.Values

namespace CommandTemplates

/-! ### The record of an id -/

/-- The first member of a list that has a key. -/
theorem exists_first {α κ : Type} [DecidableEq κ] {key : α → κ} {l : List α} {k : κ}
    (hk : k ∈ l.map key) :
    ∃ before a after, l = before ++ a :: after ∧ key a = k ∧
      ∀ other ∈ before, key other ≠ k := by
  obtain ⟨a, ha, hkey⟩ := List.mem_map.1 hk
  have hsome : (l.find? fun a => key a = k).isSome := by
    rw [List.find?_isSome]
    exact ⟨a, ha, by simpa using hkey⟩
  obtain ⟨first, hfirst⟩ := Option.isSome_iff_exists.1 hsome
  obtain ⟨hkey, before, after, hsplit, hbefore⟩ := List.find?_eq_some_iff_append.1 hfirst
  exact ⟨before, first, after, hsplit, by simpa using hkey, by simpa using hbefore⟩

namespace Registry

variable {r : Registry} {id : VariableId}

theorem isTaken_eq_false_iff {name : String} :
    r.isTaken name (some id) = false ↔
      ∀ other ∈ r.custom, other.id ≠ id → Text.lowercase other.name ≠ Text.lowercase name := by
  rw [← Bool.not_eq_true, isTaken_iff]
  simp

theorem update_eq_error (f : CustomVariable → CustomVariable)
    (hid : id ∉ r.custom.map (·.id)) : r.update id f = .error (.notFound id) := by
  rw [update, find?_eq_none_iff.2 hid]

theorem update_eq_ok_of_mem (f : CustomVariable → CustomVariable)
    (hid : id ∈ r.custom.map (·.id)) : r.update id f = .ok ⟨updateFirst id f r.custom⟩ := by
  cases hfind : r.find? id with
  | none => exact absurd hid (find?_eq_none_iff.1 hfind)
  | some record => rw [update, hfind]

end Registry

namespace Host

/-- An edit of a custom variable or of a command. -/
inductive Edit where
  | rename (id : VariableId) (name : String)
  | describe (id : VariableId) (description : String)
  | delete (id : VariableId)
  | command (id : CommandId) (edit : Command → Command)

namespace Edit

/-- The host after an edit, or why it is refused. -/
def apply (h : Host) : Edit → Except HostError Host
  | rename id name => h.renameVariable id name
  | describe id description => h.describeVariable id description
  | delete id => (h.deleteVariable id).map Prod.snd
  | command id edit => h.editCommand id edit

/-- The edit that an action of a session makes, if it is one. -/
def ofAction? : Action → Option Edit
  | .renameVariable id name => some (rename id name)
  | .describeVariable id description => some (describe id description)
  | .deleteVariable id => some (delete id)
  | .editCommand id edits => some (command id (·.edit edits))
  | _ => none

end Edit

variable {h h' : Host} {edit : Edit} {id : VariableId}

/-! ### Refusals -/

/-- Which edits a host refuses, and why.  A name is checked before the id. -/
inductive Refuses (h : Host) : Edit → HostError → Prop
  | invalidName {id : VariableId} {name : String} :
    isVariableName name = false →
    Refuses h (.rename id name) (.customVariable (.invalidName name))
  | duplicateName {id : VariableId} {name : String} {other : CustomVariable} :
    isVariableName name = true → other ∈ h.registry.custom → other.id ≠ id →
    Text.lowercase other.name = Text.lowercase name →
    Refuses h (.rename id name) (.customVariable (.duplicateName name))
  | renamedUnknown {id : VariableId} {name : String} :
    isVariableName name = true →
    (∀ other ∈ h.registry.custom, other.id ≠ id →
      Text.lowercase other.name ≠ Text.lowercase name) →
    id ∉ h.registry.custom.map (·.id) →
    Refuses h (.rename id name) (.customVariable (.notFound id))
  | describedUnknown {id : VariableId} {description : String} :
    id ∉ h.registry.custom.map (·.id) →
    Refuses h (.describe id description) (.customVariable (.notFound id))
  | deletedUnknown {id : VariableId} :
    id ∉ h.registry.custom.map (·.id) →
    Refuses h (.delete id) (.customVariable (.notFound id))
  | unknownCommand {id : CommandId} {edit : Command → Command} :
    id ∉ h.commands.map (·.id) → Refuses h (.command id edit) (.commandNotFound id)

theorem command?_eq_none_iff {id : CommandId} :
    h.command? id = none ↔ id ∉ h.commands.map (·.id) := by
  rw [command?, List.find?_eq_none, List.mem_map]
  simp

/-- What is refused fails with the reason. -/
theorem Refuses.apply_eq {e : HostError} (hrefuses : h.Refuses edit e) :
    edit.apply h = .error e := by
  cases hrefuses with
  | @invalidName id name hword =>
    have hrename : h.registry.rename id name = .error (.invalidName name) := by
      rw [Registry.rename, Registry.validateName, hword]
      rfl
    rw [Edit.apply, renameVariable, hrename]
    rfl
  | @duplicateName id name other hword hother hid hlower =>
    have htaken : h.registry.isTaken name (some id) = true :=
      Registry.isTaken_iff.2 ⟨other, hother, by simpa using hid, hlower⟩
    have hrename : h.registry.rename id name = .error (.duplicateName name) := by
      rw [Registry.rename, Registry.validateName, hword, htaken]
      rfl
    rw [Edit.apply, renameVariable, hrename]
    rfl
  | @renamedUnknown id name hword hfree hid =>
    have hvalid : h.registry.validateName name (some id) = .ok () :=
      Registry.validateName_eq_ok_iff.2 ⟨hword, Registry.isTaken_eq_false_iff.2 hfree⟩
    have hrename : h.registry.rename id name = .error (.notFound id) := by
      rw [Registry.rename, hvalid]
      exact Registry.update_eq_error _ hid
    rw [Edit.apply, renameVariable, hrename]
    rfl
  | describedUnknown hid =>
    rw [Edit.apply, describeVariable, Registry.describe, Registry.update_eq_error _ hid]
    rfl
  | deletedUnknown hid =>
    rw [Edit.apply, deleteVariable, Registry.delete, Registry.find?_eq_none_iff.2 hid]
    rfl
  | unknownCommand hid =>
    rw [Edit.apply, editCommand, requireCommand, command?_eq_none_iff.2 hid]
    rfl

/-! ### Edits in place -/

/-- Programs that change a host in place.  One that fails keeps the changes that it has made. -/
abbrev InPlace := ExceptT HostError (StateM Host)

/-- Looks something up in the host, or ends the program with an error. -/
def require {α : Type} (find : Host → Except HostError α) : InPlace α := fun h => (find h, h)

/-- The record with an id, or an error. -/
def requireRecord (h : Host) (id : VariableId) : Except HostError CustomVariable :=
  match h.registry.find? id with
  | some record => .ok record
  | none => .error (.customVariable (.notFound id))

/-- Copies the records into the settings, and makes the commands forget their preactions. -/
def syncVariables : InPlace Unit := do
  modify fun h =>
    { h with settings := { h.settings with customVariables := h.registry.custom } }
  modify fun h => { h with commands := h.commands.map (·.forget) }

/-- Changes the records of the registry. -/
def modifyRecords (f : List CustomVariable → List CustomVariable) :
    InPlace Unit :=
  modify fun h => { h with registry := ⟨f h.registry.custom⟩ }

/-- An edit as a program that makes its checks and its changes one after the other.  If it fails,
the changes that it has made by then are kept. -/
def Edit.inPlace : Edit → InPlace Unit
  | rename id name => do
    let _ ← require fun h =>
      (h.registry.validateName name (some id)).mapError HostError.customVariable
    let _ ← require (·.requireRecord id)
    modifyRecords (Registry.updateFirst id fun c => { c with name })
    syncVariables
  | describe id description => do
    let _ ← require (·.requireRecord id)
    modifyRecords (Registry.updateFirst id fun c => { c with description })
    syncVariables
  | delete id => do
    let _ ← require (·.requireRecord id)
    modifyRecords (·.eraseP fun c => c.id = id)
    modify fun h => { h with values := h.values.erase id }
    modify fun h =>
      { h with settings := { h.settings with prompts := dropTarget id h.settings.prompts } }
    syncVariables
  | command id edit => do
    let c ← require (·.requireCommand id)
    modify fun h => { h with commands := updateCommand id (fun _ => edit c) h.commands }
    modify fun h =>
      { h with settings :=
        { h.settings with commands := replaceConfig id (edit c).config h.settings.commands } }

/-- The result of a program that makes all of its changes or none, and the host that it leaves. -/
def allOrNothing (h : Host) : Except HostError Host → Except HostError Unit × Host
  | .ok h' => (.ok (), h')
  | .error e => (.error e, h)

theorem run_require {α : Type} (h : Host) (find : Host → Except HostError α)
    (next : α → InPlace Unit) :
    (require find >>= next).run.run h =
      match find h with
      | .ok a => (next a).run.run h
      | .error e => (.error e, h) := by
  show StateT.run (ExceptT.bindCont next (find h)) h = _
  cases find h <;> rfl

/-- No check of an edit comes after one of its changes. -/
theorem run_inPlace (h : Host) (edit : Edit) :
    edit.inPlace.run.run h = h.allOrNothing (edit.apply h) := by
  cases edit with
  -- the two checks of a new name are gone through in their order; every other edit has one
  | rename id name =>
    rw [Edit.inPlace, run_require, Edit.apply, renameVariable, Registry.rename, Registry.update]
    cases h.registry.validateName name (some id) with
    | error e => rfl
    | ok u =>
      show StateT.run (require (·.requireRecord id) >>= fun _ => _).run h = _
      rw [run_require, requireRecord]
      cases h.registry.find? id <;> rfl
  | describe id description =>
    rw [Edit.inPlace, run_require, requireRecord, Edit.apply, describeVariable, Registry.describe,
      Registry.update]
    cases h.registry.find? id <;> rfl
  | delete id =>
    rw [Edit.inPlace, run_require, requireRecord, Edit.apply, deleteVariable, Registry.delete]
    cases h.registry.find? id <;> rfl
  | command id edit =>
    rw [Edit.inPlace, run_require, Edit.apply, editCommand]
    cases h.requireCommand id <;> rfl

theorem perform_of_ofAction? {action : Action} (haction : Edit.ofAction? action = some edit) :
    h.perform action = (h.allOrNothing (edit.apply h)).2 := by
  cases action with
  | renameVariable id name =>
    obtain rfl := Option.some.inj haction
    show (h.renameVariable id name).toOption.getD h = (h.allOrNothing (h.renameVariable id name)).2
    cases h.renameVariable id name <;> rfl
  | describeVariable id description =>
    obtain rfl := Option.some.inj haction
    show (h.describeVariable id description).toOption.getD h =
      (h.allOrNothing (h.describeVariable id description)).2
    cases h.describeVariable id description <;> rfl
  | deleteVariable id =>
    obtain rfl := Option.some.inj haction
    show ((h.deleteVariable id).toOption.map Prod.snd).getD h =
      (h.allOrNothing ((h.deleteVariable id).map Prod.snd)).2
    cases h.deleteVariable id <;> rfl
  | editCommand id edits =>
    obtain rfl := Option.some.inj haction
    show (h.editCommand id (·.edit edits)).toOption.getD h =
      (h.allOrNothing (h.editCommand id (·.edit edits))).2
    cases h.editCommand id (·.edit edits) <;> rfl
  | createVariable => simp [Edit.ofAction?] at haction
  | setValue => simp [Edit.ofAction?] at haction
  | preview => simp [Edit.ofAction?] at haction
  | inspect => simp [Edit.ofAction?] at haction
  | prepare => simp [Edit.ofAction?] at haction

/-! ### What an edit changes -/

/-- What an edit of the record with an id leaves alone, where `becomes` says what the edit makes of
the record. -/
structure RecordDone (h h' : Host) (id : VariableId)
    (becomes : CustomVariable → Option CustomVariable) : Prop where
  /-- The records around the first one of the id are the same, in the same order. -/
  records : ∃ before record after, h.registry.custom = before ++ record :: after ∧
    record.id = id ∧ (∀ other ∈ before, other.id ≠ id) ∧
    h'.registry.custom = before ++ (becomes record).toList ++ after
  /-- The settings hold the records before and after. -/
  copies : h.settings.customVariables = h.registry.custom ∧
    h'.settings.customVariables = h'.registry.custom
  configs : h'.commands.map (·.config) = h.commands.map (·.config)
  configured : h'.settings.commands = h.settings.commands
  defaultShells : h'.settings.defaultShells = h.settings.defaultShells
  environment : h'.environment = h.environment

/-- What an edit of the command with an id changes and leaves alone. -/
structure CommandDone (h h' : Host) (id : CommandId) (edit : Command → Command) : Prop where
  /-- The other commands are the same, in the same order, and so are their configurations in the
  settings. -/
  commands : ∃ before c after, h.commands = before ++ c :: after ∧ c.id = id ∧
    (∀ other ∈ before ++ after, other.id ≠ id) ∧
    h'.commands = before ++ edit c :: after ∧
    h.settings.commands = before.map (·.config) ++ c.config :: after.map (·.config) ∧
    h'.settings.commands = before.map (·.config) ++ (edit c).config :: after.map (·.config)
  registry : h'.registry = h.registry
  values : h'.values = h.values
  customVariables : h'.settings.customVariables = h.settings.customVariables
  prompts : h'.settings.prompts = h.settings.prompts
  defaultShells : h'.settings.defaultShells = h.settings.defaultShells
  environment : h'.environment = h.environment

/-- What an edit that succeeds has done.  Only a deletion touches values, that of the variable, and
prompts, of which it drops the fields that ask for the variable. -/
def Done (h h' : Host) : Edit → Prop
  | .rename id name =>
    h.RecordDone h' id (fun record => some { record with name }) ∧
      h'.values = h.values ∧ h'.settings.prompts = h.settings.prompts
  | .describe id description =>
    h.RecordDone h' id (fun record => some { record with description }) ∧
      h'.values = h.values ∧ h'.settings.prompts = h.settings.prompts
  | .delete id =>
    h.RecordDone h' id (fun _ => none) ∧
      (∀ other, h'.values.get? other = if id = other then none else h.values.get? other) ∧
      h'.settings.prompts = h.settings.prompts.map fun p =>
        { p with fields := p.fields.filter fun field => field.target ≠ id }
  | .command id edit => h.CommandDone h' id edit

theorem updateCommand_append {id : CommandId} {f : Command → Command} {c : Command}
    {before : List Command} (hid : c.id = id) (hbefore : ∀ other ∈ before, other.id ≠ id)
    (after : List Command) :
    updateCommand id f (before ++ c :: after) = before ++ f c :: after := by
  induction before with
  | nil => exact if_pos hid
  | cons other before ih =>
    have hother : other.id ≠ id := hbefore other List.mem_cons_self
    have hrest := ih fun o ho => hbefore o (List.mem_cons_of_mem other ho)
    rw [List.cons_append, updateCommand, if_neg hother, hrest, List.cons_append]

/-- What is changed of the records, and what is not, when the first record of an id is changed. -/
theorem split_updateFirst (f : CustomVariable → CustomVariable)
    (hid : id ∈ h.registry.custom.map (·.id)) :
    ∃ before record after, h.registry.custom = before ++ record :: after ∧
      record.id = id ∧ (∀ other ∈ before, other.id ≠ id) ∧
      Registry.updateFirst id f h.registry.custom =
        before ++ (some (f record)).toList ++ after := by
  obtain ⟨before, record, after, hsplit, hrecord, hbefore⟩ := exists_first hid
  refine ⟨before, record, after, hsplit, hrecord, hbefore, ?_⟩
  rw [hsplit, Registry.updateFirst_append hrecord hbefore]
  simp

theorem split_eraseP (hid : id ∈ h.registry.custom.map (·.id)) :
    ∃ before record after, h.registry.custom = before ++ record :: after ∧
      record.id = id ∧ (∀ other ∈ before, other.id ≠ id) ∧
      (h.registry.custom.eraseP fun c => c.id = id) =
        before ++ (none : Option CustomVariable).toList ++ after := by
  obtain ⟨before, record, after, hsplit, hrecord, hbefore⟩ := exists_first hid
  refine ⟨before, record, after, hsplit, hrecord, hbefore, ?_⟩
  rw [hsplit, List.eraseP_append_right _ (by simpa using hbefore),
    List.eraseP_cons_of_pos (by simpa using hrecord)]
  simp

theorem configs_forgotten (h : Host) :
    (h.commands.map (·.forget)).map (·.config) = h.commands.map (·.config) := by
  rw [List.map_map]
  rfl

theorem Mirrored.recordDone (hmirrored : h.Mirrored) {f : CustomVariable → CustomVariable}
    (hid : id ∈ h.registry.custom.map (·.id)) :
    h.RecordDone (h.withRegistry ⟨Registry.updateFirst id f h.registry.custom⟩) id
      fun record => some (f record) :=
  ⟨split_updateFirst f hid, ⟨hmirrored.customVariables, rfl⟩, h.configs_forgotten, rfl, rfl, rfl⟩

theorem Reachable.commandDone (hreachable : h.Reachable) {id : CommandId} {c : Command}
    (hcommand : h.command? id = some c) (edit : Command → Command) :
    h.CommandDone (h.withCommand id (edit c)) id edit := by
  have hmirrored := hreachable.mirrored
  obtain ⟨hid, before, after, hsplit, hbefore⟩ := List.find?_eq_some_iff_append.1 hcommand
  replace hid : c.id = id := by simpa using hid
  replace hbefore : ∀ other ∈ before, other.id ≠ id := by simpa using hbefore
  -- ids of commands differ, so those after the first one of the id have other ids, too
  have hafter : ∀ other ∈ after, other.id ≠ id := by
    intro other hother heq
    have hnodup := hreachable.nodup_commandIds
    rw [hsplit, List.map_append, List.map_cons, List.nodup_append, List.nodup_cons] at hnodup
    refine hnodup.2.1.1 ?_
    rw [hid, ← heq]
    exact List.mem_map_of_mem hother
  have hcommands : (h.withCommand id (edit c)).commands = before ++ edit c :: after := by
    show updateCommand id _ h.commands = _
    rw [hsplit, updateCommand_append hid hbefore]
  refine ⟨⟨before, c, after, hsplit, hid, ?_, hcommands, ?_, ?_⟩, rfl, rfl, rfl, rfl, rfl, rfl⟩
  · intro other hother
    exact (List.mem_append.1 hother).elim (hbefore other) (hafter other)
  · rw [hmirrored.commands, hsplit, List.map_append, List.map_cons]
  · rw [(hmirrored.withCommand id (edit c)).commands, hcommands, List.map_append, List.map_cons]

/-- An edit is refused or done. -/
theorem refuses_or_done (hreachable : h.Reachable) (edit : Edit) :
    (∃ e, h.Refuses edit e) ∨ ∃ h', edit.apply h = .ok h' ∧ h.Done h' edit := by
  have hmirrored := hreachable.mirrored
  cases edit with
  | rename id name =>
    -- the name is checked first, and it is refused for its characters or for another record
    cases hvalid : h.registry.validateName name (some id) with
    | error e =>
      cases hword : isVariableName name with
      | false => exact .inl ⟨_, .invalidName hword⟩
      | true =>
        -- the characters are fine, so the name must be taken
        have htaken : h.registry.isTaken name (some id) = true := by
          by_contra hfree
          have haccepted := Registry.validateName_eq_ok_iff (u := ()).2
            ⟨hword, (Bool.not_eq_true _).mp hfree⟩
          rw [hvalid] at haccepted
          simp at haccepted
        obtain ⟨other, hother, hid, hlower⟩ := Registry.isTaken_iff.1 htaken
        exact .inl ⟨_, .duplicateName hword hother (by simpa using hid) hlower⟩
    | ok _ =>
      -- the name is free; whether the edit is done depends on the id alone
      obtain ⟨hword, hfree⟩ := Registry.validateName_eq_ok_iff.1 hvalid
      by_cases hid : id ∈ h.registry.custom.map (·.id)
      · refine .inr ⟨_, ?_, hmirrored.recordDone hid, rfl, rfl⟩
        rw [Edit.apply, renameVariable, Registry.rename, hvalid]
        show (Except.mapError HostError.customVariable (h.registry.update id _) >>= _) = _
        rw [Registry.update_eq_ok_of_mem _ hid]
        rfl
      · exact .inl ⟨_, .renamedUnknown hword (Registry.isTaken_eq_false_iff.1 hfree) hid⟩
  | describe id description =>
    by_cases hid : id ∈ h.registry.custom.map (·.id)
    · refine .inr ⟨_, ?_, hmirrored.recordDone hid, rfl, rfl⟩
      rw [Edit.apply, describeVariable, Registry.describe, Registry.update_eq_ok_of_mem _ hid]
      rfl
    · exact .inl ⟨_, .describedUnknown hid⟩
  | delete id =>
    by_cases hid : id ∈ h.registry.custom.map (·.id)
    · -- the first record of the id goes, and with it its value and the fields that ask for it
      cases hfind : h.registry.find? id with
      | none => exact absurd hid (Registry.find?_eq_none_iff.1 hfind)
      | some record =>
        refine .inr ⟨h.withoutVariable id ⟨h.registry.custom.eraseP fun c => c.id = id⟩, ?_,
          ⟨split_eraseP hid, ⟨hmirrored.customVariables, rfl⟩, h.configs_forgotten, rfl, rfl, rfl⟩,
          fun other => Dictionary.get?_erase h.values id other, rfl⟩
        rw [Edit.apply, deleteVariable, Registry.delete, hfind]
        rfl
    · exact .inl ⟨_, .deletedUnknown hid⟩
  | command id edit =>
    cases hcommand : h.command? id with
    | none => exact .inl ⟨_, .unknownCommand (command?_eq_none_iff.1 hcommand)⟩
    | some c =>
      refine .inr ⟨_, ?_, hreachable.commandDone hcommand edit⟩
      rw [Edit.apply, editCommand, requireCommand, hcommand]
      rfl

/-- An edit of the custom variables or of a command, in any host of a session.  Made in place, with
its checks and changes one after the other, it comes to what the session's action says.  Either it
is refused, and the host is what it was, so that the session goes on as if it had not been tried; or
there is no reason to refuse it, and of all that the host holds it changes what it is about. -/
theorem unchanged_or_done (hreachable : h.Reachable) (edit : Edit) :
    (∀ action, Edit.ofAction? action = some edit →
        h.perform action = (edit.inPlace.run.run h).2) ∧
      ((∃ e, h.Refuses edit e ∧ edit.apply h = .error e ∧
          edit.inPlace.run.run h = (.error e, h) ∧
          ∀ action, Edit.ofAction? action = some edit → ∀ later,
            h.performAll (action :: later) = h.performAll later) ∨
        ∃ h', (∀ e, ¬ h.Refuses edit e) ∧ edit.apply h = .ok h' ∧
          edit.inPlace.run.run h = (.ok (), h') ∧ h.Done h' edit) := by
  have hperform : ∀ action, Edit.ofAction? action = some edit →
      h.perform action = (edit.inPlace.run.run h).2 := by
    intro action haction
    rw [perform_of_ofAction? haction, run_inPlace]
  refine ⟨hperform, ?_⟩
  rcases refuses_or_done hreachable edit with ⟨e, hrefuses⟩ | ⟨h', happly, hdone⟩
  · -- refused: the program ends at a check, before its first change
    have hrun : edit.inPlace.run.run h = (.error e, h) := by
      rw [run_inPlace, hrefuses.apply_eq]
      rfl
    refine .inl ⟨e, hrefuses, hrefuses.apply_eq, hrun, ?_⟩
    intro action haction later
    show (h.perform action).performAll later = h.performAll later
    rw [hperform action haction, hrun]
  · -- done: a reason to refuse it would have ended the program with an error
    refine .inr ⟨h', ?_, happly, ?_, hdone⟩
    · intro e hrefuses
      rw [hrefuses.apply_eq] at happly
      simp at happly
    · rw [run_inPlace, happly]
      rfl

/-- Of two variables, one has a value and a prompt that asks for it.  The other may not have its
name, in capitals; then it is deleted, and its value and the question go with it. -/
theorem unchanged_or_done_deleted :
    let h := (oneQuestion "\x7b\x7b_target\x7d\x7d").performAll
      [.createVariable "id-2", .prepare "c" none [.ok (some ["a"])]]
    h.Reachable ∧ h.values.keys = ["id-1"] ∧
      (Edit.rename "id-2" "TARGET").inPlace.run.run h =
        (.error (.customVariable (.duplicateName "TARGET")), h) ∧
      ∃ h', (Edit.delete "id-1").apply h = .ok h' ∧ h.Done h' (.delete "id-1") ∧
        h'.registry.custom = [⟨"id-2", "1", ""⟩] ∧ h'.values.keys = [] ∧
        h'.settings.prompts.map (·.fields) = [[]] := by
  intro h
  have hreachable : h.Reachable := (reachable_oneQuestion _).performAll _
  refine ⟨hreachable, by decide +kernel, ?_, ?_⟩
  · -- another record has the name in other letters, which is a reason to refuse
    have hother : (⟨"id-1", "target", ""⟩ : CustomVariable) ∈ h.registry.custom := by
      decide +kernel
    have hrefuses : h.Refuses (.rename "id-2" "TARGET")
        (.customVariable (.duplicateName "TARGET")) :=
      .duplicateName (by decide +kernel) hother (by decide) (by decide +kernel)
    rcases (unchanged_or_done hreachable (.rename "id-2" "TARGET")).2 with
      ⟨e, hrefuses', happly, hrun, -⟩ | ⟨-, hfree, -⟩
    · rw [hrefuses.apply_eq] at happly
      rw [hrun, Except.error.inj happly]
    · exact absurd hrefuses (hfree _)
  · rcases (unchanged_or_done hreachable (.delete "id-1")).2 with
      ⟨e, -, happly, -⟩ | ⟨h', -, happly, -, hdone⟩
    · have hok : ((Edit.delete "id-1").apply h).toOption.isSome = true := by decide +kernel
      rw [happly] at hok
      simp [Except.toOption] at hok
    · have hparts : (((Edit.delete "id-1").apply h).toOption.map fun h' =>
          (h'.registry.custom, h'.values.keys, h'.settings.prompts.map (·.fields))) =
          some ([⟨"id-2", "1", ""⟩], [], [[]]) := by decide +kernel
      rw [happly] at hparts
      simp only [Except.toOption, Option.map_some, Option.some.injEq, Prod.mk.injEq] at hparts
      exact ⟨h', happly, hdone, hparts.1, hparts.2.1, hparts.2.2⟩

end Host

end CommandTemplates
