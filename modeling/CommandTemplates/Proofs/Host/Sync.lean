/-
The settings of a host are always those that it would be opened with.

A host keeps the records of the custom variables and the configurations of the
commands twice, in its settings and in its parts, and every edit changes both.  As
long as no new custom variable gets an id that is in use, the settings keep their
rules, so that they could be saved and opened again at any time.

* `Host.Reachable.edited` — the registry of a host is one that edits can reach;
* `Host.Mirrored`, `Host.Reachable.mirrored` — both copies are the same, whatever ids
  new custom variables get;
* `Host.InSync` — the invariant: the settings keep the rules and hold what the parts
  hold; `InSync.step` is its step;
* `Host.Reopenable` — what this comes to for the settings, the registry and the
  commands; `Host.reopenable_of_freshReachable` proves it of sessions.
-/
import CommandTemplates.Proofs.Host.Coherent
import CommandTemplates.Proofs.Variable.Edits

namespace CommandTemplates

/-! ### Edits of a command -/

namespace Command

variable {c : Command}

theorem id_apply (c : Command) (edit : CommandEdit) : (edit.apply c).id = c.id := by
  cases edit with
  | addPreaction config => rfl
  | setPreactionEnabled index enabled =>
    rw [CommandEdit.apply, setPreactionEnabled?]
    split <;> rfl
  | enableEvent kind => rfl
  | disableEvent kind =>
    rw [CommandEdit.apply, disableEvent]
    split <;> rfl
  | forgetPreactions => rfl

theorem id_edit (c : Command) (edits : List CommandEdit) : (c.edit edits).id = c.id := by
  induction edits generalizing c with
  | nil => rfl
  | cons edit edits ih => exact (ih (edit.apply c)).trans (c.id_apply edit)

theorem eventsKnown_insert {config : CommandConfig} (h : config.EventsKnown) (kind : EventKind)
    (event : EventConfig) :
    CommandConfig.EventsKnown { config with events := config.events.insert kind.code event } := by
  intro code hcode
  rcases SortedMap.mem_map_fst_insertEntry hcode with rfl | hcode
  · -- the entry is that of a kind, so its code is known
    rw [EventKind.ofCode?_code]
    rfl
  · exact h code hcode

theorem eventsKnown_erase {config : CommandConfig} (h : config.EventsKnown) (code : String) :
    CommandConfig.EventsKnown { config with events := config.events.erase code } := by
  intro code' hcode
  exact h code' ((List.filter_sublist.map Prod.fst).subset hcode)

theorem eventsKnown_apply (h : c.config.EventsKnown) (edit : CommandEdit) :
    (edit.apply c).config.EventsKnown := by
  cases edit with
  | addPreaction config => exact h
  | setPreactionEnabled index enabled =>
    rw [CommandEdit.apply, setPreactionEnabled?]
    split
    · exact h
    · exact h
  | enableEvent kind => exact eventsKnown_insert h kind _
  | disableEvent kind =>
    rw [CommandEdit.apply, disableEvent]
    split
    · exact h
    · next event _ =>
      -- an entry with further settings stays, switched off
      by_cases hextras : event.extras.isEmpty = true
      · simp only [hextras, if_true]
        exact eventsKnown_erase h kind.code
      · simp only [hextras]
        exact eventsKnown_insert h kind _
  | forgetPreactions => exact h

theorem eventsKnown_edit (h : c.config.EventsKnown) (edits : List CommandEdit) :
    (c.edit edits).config.EventsKnown := by
  induction edits generalizing c with
  | nil => exact h
  | cons edit edits ih => exact ih (eventsKnown_apply h edit)

end Command

/-! ### What edits leave alone -/

namespace Registry

theorem map_id_updateFirst {f : CustomVariable → CustomVariable} (hf : ∀ c, (f c).id = c.id)
    (id : VariableId) (records : List CustomVariable) :
    (updateFirst id f records).map (·.id) = records.map (·.id) := by
  induction records with
  | nil => rfl
  | cons c records ih =>
    rw [updateFirst]
    split
    · rw [List.map_cons, List.map_cons, hf]
    · rw [List.map_cons, List.map_cons, ih]

theorem map_id_of_rename {r r' : Registry} {id : VariableId} {name : String}
    (h : r.rename id name = .ok r') : r'.custom.map (·.id) = r.custom.map (·.id) := by
  rw [(rename_eq_ok h).2]
  refine map_id_updateFirst ?_ id r.custom
  intro c
  rfl

theorem map_id_of_describe {r r' : Registry} {id : VariableId} {description : String}
    (h : r.describe id description = .ok r') : r'.custom.map (·.id) = r.custom.map (·.id) := by
  rw [update_eq_ok h]
  refine map_id_updateFirst ?_ id r.custom
  intro c
  rfl

/-- Without repeated ids a deletion leaves no record of the id. -/
theorem not_mem_of_delete {r r' : Registry} {id : VariableId} {record : CustomVariable}
    (hids : (r.custom.map (·.id)).Nodup) (h : r.delete id = .ok (record, r')) :
    id ∉ r'.custom.map (·.id) := by
  have hmap : (r.custom.eraseP fun c => c.id = id).map (·.id) =
      (r.custom.map (·.id)).erase id := by
    rw [List.erase_eq_eraseP', List.eraseP_map]
    rfl
  rw [(delete_eq_ok h).2, hmap]
  exact hids.not_mem_erase

end Registry

namespace Host

variable {h h' : Host} {registry : Registry}

theorem map_updateCommand {β : Type} {g : Command → β} {id : CommandId} {f : Command → Command}
    {commands : List Command} (hf : ∀ c, c.id = id → g (f c) = g c) :
    (updateCommand id f commands).map g = commands.map g := by
  induction commands with
  | nil => rfl
  | cons c commands ih =>
    rw [updateCommand]
    split
    · next hid => rw [List.map_cons, List.map_cons, hf c hid]
    · rw [List.map_cons, List.map_cons, ih]

theorem replaceConfig_map (id : CommandId) (edited : Command) (commands : List Command) :
    replaceConfig id edited.config (commands.map (·.config)) =
      (updateCommand id (fun _ => edited) commands).map (·.config) := by
  induction commands with
  | nil => rfl
  | cons c commands ih =>
    rw [List.map_cons, replaceConfig, updateCommand, ih]
    -- the id of a command is that of its configuration, so both lists are cut at one place
    show (if c.id = id then _ else _) = _
    split <;> rfl

/-! ### The invariant -/

/-- The registry of a host in a session is one that loading and edits can reach. -/
theorem Reachable.edited (hreachable : h.Reachable) : h.registry.Edited := by
  refine hreachable.invariant (P := fun h => h.registry.Edited) ?_ ?_
  · intro settings environment h hopen
    exact .loaded (ofSettings_eq_ok hopen).2.1
  · intro h action h' hedited hstep
    cases hstep with
    | refused => exact hedited
    | created freshId => exact hedited.created freshId
    | renamed hrename => exact hedited.renamed hrename
    | described hdescribe => exact hedited.described hdescribe
    | deleted hdelete => exact hedited.deleted hdelete
    | edited => exact hedited
    | valueSet => exact hedited
    | previewed => exact hedited
    | inspected => exact hedited
    | prepared => exact hedited

/-- A host whose settings hold its records and configurations. -/
structure Mirrored (h : Host) : Prop where
  customVariables : h.settings.customVariables = h.registry.custom
  commands : h.settings.commands = h.commands.map (·.config)

theorem mirrored_of_opened {settings : Settings} {environment : Environment}
    (hopen : ofSettings settings environment = .ok h) : h.Mirrored := by
  obtain ⟨-, hload, rfl, hcommands⟩ := ofSettings_eq_ok hopen
  obtain ⟨hregistry, -, -⟩ := Registry.load_eq_ok_iff.1 hload
  refine ⟨by rw [hregistry], ?_⟩
  rw [hcommands, List.map_map]
  exact (List.map_id _).symm

theorem Mirrored.withRegistry (hmirrored : h.Mirrored) (registry : Registry) :
    (h.withRegistry registry).Mirrored := by
  refine ⟨rfl, ?_⟩
  show h.settings.commands = (h.commands.map (·.forget)).map (·.config)
  rw [hmirrored.commands, List.map_map]
  rfl

theorem Mirrored.withoutVariable (hmirrored : h.Mirrored) (id : VariableId)
    (registry : Registry) : (h.withoutVariable id registry).Mirrored :=
  -- neither the prompts nor the values are among what is held twice
  ⟨rfl, (hmirrored.withRegistry registry).commands⟩

theorem Mirrored.withCommand (hmirrored : h.Mirrored) (id : CommandId) (edited : Command) :
    (h.withCommand id edited).Mirrored := by
  refine ⟨hmirrored.customVariables, ?_⟩
  show replaceConfig id edited.config h.settings.commands =
    (updateCommand id (fun _ => edited) h.commands).map (·.config)
  rw [hmirrored.commands, replaceConfig_map]

theorem Mirrored.rememberPreactions (hmirrored : h.Mirrored) (id : CommandId) :
    (h.rememberPreactions id).Mirrored := by
  refine ⟨hmirrored.customVariables, ?_⟩
  have hconfigs : (h.rememberPreactions id).commands.map (·.config) =
      h.commands.map (·.config) := by
    refine map_updateCommand ?_
    intro c _
    rfl
  rw [hconfigs]
  exact hmirrored.commands

theorem Mirrored.step {action : Action} (hmirrored : h.Mirrored) (hstep : h.Step action h') :
    h'.Mirrored := by
  cases hstep with
  | refused => exact hmirrored
  | created freshId => exact hmirrored.withRegistry _
  | renamed => exact hmirrored.withRegistry _
  | described => exact hmirrored.withRegistry _
  | deleted => exact hmirrored.withoutVariable _ _
  | edited => exact hmirrored.withCommand _ _
  | valueSet id value => exact ⟨hmirrored.customVariables, hmirrored.commands⟩
  | previewed => exact hmirrored.rememberPreactions _
  | inspected id => exact hmirrored.rememberPreactions id
  | @prepared id c =>
    have hremembered := hmirrored.rememberPreactions c.id
    exact ⟨hremembered.customVariables, hremembered.commands⟩

/-- Whatever ids new custom variables get, both copies are the same. -/
theorem Reachable.mirrored (hreachable : h.Reachable) : h.Mirrored :=
  hreachable.invariant (fun _ _ _ => mirrored_of_opened) fun _ _ _ => Mirrored.step

/-- The commands of a host keep their ids and their order. -/
theorem Step.map_id_commands {action : Action} (hstep : h.Step action h') :
    h'.commands.map (·.id) = h.commands.map (·.id) := by
  have hremember : ∀ id, (h.rememberPreactions id).commands.map (·.id) =
      h.commands.map (·.id) := fun id => map_updateCommand fun _ _ => rfl
  have hforget : (h.commands.map (·.forget)).map (·.id) = h.commands.map (·.id) := by
    rw [List.map_map]
    rfl
  cases hstep with
  | refused => rfl
  | created => exact hforget
  | renamed => exact hforget
  | described => exact hforget
  | deleted => exact hforget
  -- edits leave the id alone, and the command that is replaced has it, too
  | @edited id c edits hcommand =>
    refine map_updateCommand ?_
    intro other hother
    have hid : c.id = id := by simpa using List.find?_some hcommand
    rw [c.id_edit, hid, hother]
  | valueSet => rfl
  | previewed => exact hremember _
  | inspected id => exact hremember id
  | prepared => exact hremember _

theorem Reachable.nodup_commandIds (hreachable : h.Reachable) :
    (h.commands.map (·.id)).Nodup := by
  refine hreachable.invariant (P := fun h => (h.commands.map (·.id)).Nodup) ?_ ?_
  · intro settings environment h hopen
    obtain ⟨hviolation, -, -, hcommands⟩ := ofSettings_eq_ok hopen
    rw [hcommands, List.map_map]
    exact (Settings.violation?_eq_none_iff.1 hviolation).commands
  · intro h action h' hnodup hstep
    rw [hstep.map_id_commands]
    exact hnodup

/-- A host whose settings keep the rules and hold its records and configurations. -/
structure InSync (h : Host) : Prop where
  rules : h.settings.KeepsRules
  customVariables : h.settings.customVariables = h.registry.custom
  commands : h.settings.commands = h.commands.map (·.config)

theorem inSync_of_opened {settings : Settings} {environment : Environment}
    (hopen : ofSettings settings environment = .ok h) : h.InSync := by
  have hmirrored := mirrored_of_opened hopen
  obtain ⟨hviolation, -, rfl, -⟩ := ofSettings_eq_ok hopen
  exact ⟨Settings.violation?_eq_none_iff.1 hviolation, hmirrored.customVariables,
    hmirrored.commands⟩

theorem InSync.mirrored (hsync : h.InSync) : h.Mirrored := ⟨hsync.customVariables, hsync.commands⟩

/-- Another registry keeps a host in step if its ids differ and every target is among them. -/
theorem InSync.withRegistry (hsync : h.InSync) (hids : (registry.custom.map (·.id)).Nodup)
    (htargets : ∀ p ∈ h.settings.prompts, p.AsksAmong (registry.custom.map (·.id))) :
    (h.withRegistry registry).InSync := by
  exact ⟨⟨hsync.rules.commands, hsync.rules.events, hids, hsync.rules.prompts, htargets⟩, rfl,
    (hsync.mirrored.withRegistry registry).commands⟩

theorem InSync.nodup_ids (hsync : h.InSync) : (h.registry.custom.map (·.id)).Nodup := by
  rw [← hsync.customVariables]
  exact hsync.rules.customVariables

theorem InSync.targets (hsync : h.InSync) :
    ∀ p ∈ h.settings.prompts, p.AsksAmong (h.registry.custom.map (·.id)) := by
  rw [← hsync.customVariables]
  exact hsync.rules.targets

theorem InSync.withSameIds (hsync : h.InSync)
    (hids : registry.custom.map (·.id) = h.registry.custom.map (·.id)) :
    (h.withRegistry registry).InSync := by
  refine hsync.withRegistry ?_ ?_
  · rw [hids]
    exact hsync.nodup_ids
  · rw [hids]
    exact hsync.targets

theorem InSync.withCreated (hsync : h.InSync) {freshId : VariableId}
    (hfresh : freshId ∉ h.registry.custom.map (·.id)) :
    (h.withRegistry (h.registry.create freshId).2).InSync := by
  have hids : (h.registry.create freshId).2.custom.map (·.id) =
      h.registry.custom.map (·.id) ++ [freshId] := by
    simp [Registry.create]
  refine hsync.withRegistry ?_ ?_
  · rw [hids, List.nodup_append]
    refine ⟨hsync.nodup_ids, by simp, ?_⟩
    -- the new id is the only one that could repeat another, and it is fresh
    intro id hid other hother heq
    rw [heq, List.mem_singleton.1 hother] at hid
    exact hfresh hid
  · intro p hp field hfield
    rw [hids]
    exact List.mem_append_left _ (hsync.targets p hp field hfield)

theorem InSync.withoutVariable (hsync : h.InSync) {id : VariableId} {record : CustomVariable}
    (hdelete : h.registry.delete id = .ok (record, registry)) :
    (h.withoutVariable id registry).InSync := by
  obtain ⟨-, rfl⟩ := Registry.delete_eq_ok hdelete
  have hids : ((h.registry.custom.eraseP fun c => c.id = id).map (·.id)).Nodup :=
    hsync.nodup_ids.sublist (List.eraseP_sublist.map _)
  have hprompts : ((dropTarget id h.settings.prompts).map (·.id)).Nodup := by
    rw [map_id_dropTarget]
    exact hsync.rules.prompts
  -- a field that is left asks for a record of another id, which is left as well
  have htargets : ∀ p ∈ dropTarget id h.settings.prompts,
      p.AsksAmong ((h.registry.custom.eraseP fun c => c.id = id).map (·.id)) := by
    intro p hp field hfield
    obtain ⟨earlier, hearlier, rfl⟩ := List.mem_map.1 hp
    obtain ⟨hfield, hother⟩ := List.mem_filter.1 hfield
    obtain ⟨target, htarget, heq⟩ := List.mem_map.1 (hsync.targets earlier hearlier field hfield)
    refine List.mem_map.2 ⟨target, ?_, heq⟩
    have hkept : target.id ≠ id := by
      rw [heq]
      simpa using hother
    exact (List.mem_eraseP_of_neg (p := fun c => c.id = id) (by simpa using hkept)).2 htarget
  exact ⟨⟨hsync.rules.commands, hsync.rules.events, hids, hprompts, htargets⟩, rfl,
    (hsync.mirrored.withoutVariable id _).commands⟩

theorem InSync.withCommand (hsync : h.InSync) {id : CommandId} {c : Command}
    (hcommand : h.command? id = some c) (edits : List CommandEdit) :
    (h.withCommand id (c.edit edits)).InSync := by
  have hc : c ∈ h.commands := List.mem_of_find?_eq_some hcommand
  have hevents : ∀ c ∈ h.commands, c.config.EventsKnown := by
    intro c hc
    refine hsync.rules.events c.config ?_
    rw [hsync.commands]
    exact List.mem_map_of_mem hc
  have hcommands : replaceConfig id (c.edit edits).config h.settings.commands =
      (updateCommand id (fun _ => c.edit edits) h.commands).map (·.config) :=
    (hsync.mirrored.withCommand id _).commands
  -- an edit never changes the id, so the first command with the id is replaced by one with it
  have hids : (replaceConfig id (c.edit edits).config h.settings.commands).map (·.id) =
      h.settings.commands.map (·.id) := by
    rw [hcommands, hsync.commands, List.map_map, List.map_map]
    exact (Step.edited edits hcommand).map_id_commands
  refine ⟨⟨?_, ?_, hsync.rules.customVariables, hsync.rules.prompts, hsync.rules.targets⟩,
    hsync.customVariables, hcommands⟩
  · show ((replaceConfig id (c.edit edits).config h.settings.commands).map (·.id)).Nodup
    rw [hids]
    exact hsync.rules.commands
  · intro config hconfig
    replace hconfig : config ∈ replaceConfig id (c.edit edits).config h.settings.commands := hconfig
    rw [hcommands] at hconfig
    obtain ⟨other, hother, rfl⟩ := List.mem_map.1 hconfig
    rcases mem_updateCommand hother with hother | ⟨-, -, rfl⟩
    · exact hevents other hother
    · exact Command.eventsKnown_edit (hevents c hc) edits

theorem InSync.rememberPreactions (hsync : h.InSync) (id : CommandId) :
    (h.rememberPreactions id).InSync :=
  ⟨hsync.rules, hsync.customVariables, (hsync.mirrored.rememberPreactions id).commands⟩

/-- Every action keeps a host in step if it does not repeat an id. -/
theorem InSync.step {action : Action} (hsync : h.InSync) (hfresh : action.IsFresh h)
    (hstep : h.Step action h') : h'.InSync := by
  cases hstep with
  | refused => exact hsync
  | created freshId => exact hsync.withCreated hfresh
  | renamed hrename => exact hsync.withSameIds (Registry.map_id_of_rename hrename)
  | described hdescribe => exact hsync.withSameIds (Registry.map_id_of_describe hdescribe)
  | deleted hdelete => exact hsync.withoutVariable hdelete
  | edited edits hcommand => exact hsync.withCommand hcommand edits
  | valueSet id value => exact ⟨hsync.rules, hsync.customVariables, hsync.commands⟩
  | previewed => exact hsync.rememberPreactions _
  | inspected id => exact hsync.rememberPreactions id
  | @prepared id c =>
    have hremembered := hsync.rememberPreactions c.id
    exact ⟨hremembered.rules, hremembered.customVariables, hremembered.commands⟩

theorem FreshReachable.inSync (hreachable : h.FreshReachable) : h.InSync :=
  hreachable.invariant (fun _ _ _ => inSync_of_opened) fun _ _ _ => InSync.step

/-! ### What the settings are good for -/

/-- A host whose settings hold all that it takes to open it again, but for the values of its custom
variables: they are valid, and say what the registry and the commands say. -/
structure Reopenable (h : Host) : Prop where
  valid : h.settings.validate = .ok ()
  reopened : ∀ environment, ofSettings h.settings environment =
    .ok {
      settings := h.settings
      registry := h.registry
      environment
      commands := h.commands.map (·.forget) }
  customVariables : h.settings.customVariables = h.registry.custom
  words : ∀ record ∈ h.registry.custom, isVariableName record.name = true
  names : (h.registry.custom.map fun record => Text.lowercase record.name).Nodup
  ids : (h.registry.custom.map (·.id)).Nodup
  commands : h.settings.commands = h.commands.map (·.config)
  commandIds : (h.commands.map (·.id)).Nodup
  command? : ∀ id, h.settings.command? id = (h.command? id).map (·.config)
  snapshot : h.registry.snapshot.members =
    Builtin.all ++ h.registry.custom.map (·.toVariable)
  placeholders : h.registry.snapshot.names =
    Builtin.all.map (·.name) ++ h.registry.custom.map fun record => "_" ++ record.name

/-- The settings of a host that is in step are those that it would be opened with. -/
theorem InSync.ofSettings_eq_ok (hsync : h.InSync) (hedited : h.registry.Edited)
    (environment : Environment) :
    ofSettings h.settings environment =
      .ok {
        settings := h.settings
        registry := h.registry
        environment
        commands := h.commands.map (·.forget) } := by
  have hvalid : h.settings.validate = .ok () := Settings.validate_eq_ok_iff.2 hsync.rules
  -- names that are apart and ids that differ make names that differ, as loading asks for
  have hload : Registry.load h.settings.customVariables = .ok h.registry := by
    rw [hsync.customVariables]
    exact Registry.load_eq_ok_iff.2
      ⟨rfl, hedited.isVariableName, hedited.namesApart.nodup_lowercase hsync.nodup_ids⟩
  have hcommands : (h.settings.commands.map fun config => ({ config } : Command)) =
      h.commands.map (·.forget) := by
    rw [hsync.commands, List.map_map]
    rfl
  rw [ofSettings, hvalid, hload, hcommands]
  rfl

theorem InSync.command?_eq (hsync : h.InSync) (id : CommandId) :
    h.settings.command? id = (h.command? id).map (·.config) := by
  rw [Settings.command?, hsync.commands, List.find?_map]
  rfl

/-- However a session goes, as long as no new custom variable gets an id that is in use, the
settings are valid and in step with the registry and the commands, and the host could be opened
again with them. -/
theorem reopenable_of_freshReachable (hreachable : h.FreshReachable) : h.Reopenable := by
  have hsync := hreachable.inSync
  have hedited := hreachable.reachable.edited
  have hsnapshot := Registry.members_snapshot hedited.namesApart hsync.nodup_ids
  refine
    { valid := Settings.validate_eq_ok_iff.2 hsync.rules
      reopened := hsync.ofSettings_eq_ok hedited
      customVariables := hsync.customVariables
      words := hedited.isVariableName
      names := hedited.namesApart.nodup_lowercase hsync.nodup_ids
      ids := hsync.nodup_ids
      commands := hsync.commands
      commandIds := ?_
      command? := hsync.command?_eq
      snapshot := hsnapshot
      placeholders := ?_ }
  · have hids : h.settings.commands.map (·.id) = h.commands.map (·.id) := by
      rw [hsync.commands, List.map_map]
      rfl
    rw [← hids]
    exact hsync.rules.commands
  · rw [VariableSet.names, hsnapshot, List.map_append, List.map_map]
    rfl

/-- A session with edits of every kind, one of them refused: the second custom variable may not have
the name of the first, in capitals, before the first is gone. -/
theorem reopenable_of_freshReachable_renamed :
    let h := ((((((oneQuestion "\x7b\x7b_target\x7d\x7d").perform (.createVariable "id-2")).perform
      (.renameVariable "id-2" "TARGET")).perform (.describeVariable "id-1" "old")).perform
      (.editCommand "c" [.enableEvent .fileCreated, .setPreactionEnabled 0 false])).perform
      (.deleteVariable "id-1")).perform (.renameVariable "id-2" "TARGET")
    h.FreshReachable ∧ h.Reopenable ∧ h.settings.customVariables = [⟨"id-2", "TARGET", ""⟩] ∧
      h.settings.prompts.map (·.fields) = [[]] ∧
      h.settings.commands.map (·.events.keys) = [["file-created"]] := by
  intro h
  have hfresh : (Action.createVariable "id-2").IsFresh
      (oneQuestion "\x7b\x7b_target\x7d\x7d") := by decide
  have hreachable : h.FreshReachable :=
    .performed trivial (.performed trivial (.performed trivial (.performed trivial
      (.performed trivial (.performed hfresh (freshReachable_oneQuestion _))))))
  exact ⟨hreachable, reopenable_of_freshReachable hreachable, by decide +kernel, by decide +kernel,
    by decide +kernel⟩

end Host

end CommandTemplates
