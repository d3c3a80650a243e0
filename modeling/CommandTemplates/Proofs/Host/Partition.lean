/-
The variables that depend on a command's preactions, and the others.

The variables of the second pass are those that an enabled step of the command asks
for, as the prompts, the steps and the names are now; those of the first pass are the
rest of the registry's snapshot.

* `Command.mem_dependentVariables` — which variables depend on a preaction;
* `Command.contains_dependentVariables_iff` — which names they have;
* `Command.mem_independentVariables` — which variables do not;
* `Host.partition_of_reachable` — in a session the two part the snapshot, and they are
  the sets of the two passes of every expansion.
-/
import CommandTemplates.Proofs.Host.Coherent

namespace CommandTemplates

namespace VariableSet

theorem contains_ofList {vs : List Variable} {name : String} :
    (ofList vs).contains name = true ↔ ∃ v ∈ vs, v.name = name := by
  rw [← get?_isSome, get?_ofList, List.find?_isSome]
  simp

theorem contains_foldl_merge {α : Type} (part : α → VariableSet) (parts : List α)
    (s : VariableSet) (name : String) :
    (parts.foldl (fun s p => s.merge (part p)) s).contains name = true ↔
      s.contains name = true ∨ ∃ p ∈ parts, (part p).contains name = true := by
  induction parts generalizing s with
  | nil => simp
  | cons p parts ih =>
    rw [List.foldl_cons, ih, contains_merge, Bool.or_eq_true, List.exists_mem_cons_iff,
      or_assoc]

end VariableSet

namespace Command

variable {c : Command} {settings : Settings} {registry : Registry} {v : Variable}

/-- Whether an enabled step of a command shows a prompt with a field for a custom variable. -/
def AsksFor (c : Command) (settings : Settings) (id : VariableId) : Prop :=
  ∃ step ∈ c.config.preactions, step.enabled = true ∧
    ∃ prompt ∈ settings.prompts, step.kind = .prompt prompt.id ∧
      ∃ field ∈ prompt.fields, field.target = id

theorem contains_select {ids : List VariableId} {name : String} :
    (registry.select ids).contains name = true ↔
      ∃ id ∈ ids, ∃ record, registry.find? id = some record ∧ record.placeholderName = name := by
  rw [Registry.select, VariableSet.contains_ofList]
  constructor
  · rintro ⟨v, hv, hname⟩
    obtain ⟨record, hrecord, rfl⟩ := List.mem_map.1 hv
    obtain ⟨id, hid, hfind⟩ := List.mem_filterMap.1 hrecord
    exact ⟨id, hid, record, hfind, hname⟩
  · rintro ⟨id, hid, record, hfind, hname⟩
    exact ⟨record.toVariable, List.mem_map_of_mem (List.mem_filterMap.2 ⟨id, hid, hfind⟩), hname⟩

/-- A variable asked for is the target of a field of some preaction's prompt. -/
theorem AsksFor.exists_preaction {id : VariableId} (h : c.AsksFor settings id)
    (hprompts : (settings.prompts.map (·.id)).Nodup) (registry : Registry) :
    ∃ p ∈ buildPreactions settings registry c.config.preactions, ∃ prompt,
      p.prompt = some prompt ∧ p.dependent = registry.select (prompt.fields.map (·.target)) ∧
        ∃ field ∈ prompt.fields, field.target = id := by
  obtain ⟨step, hmem, henabled, prompt, hprompt, hkind, hfield⟩ := h
  have hfind : settings.prompt? prompt.id = some prompt :=
    (Settings.prompt?_eq_some_iff hprompts).2 ⟨hprompt, rfl⟩
  refine ⟨_, List.mem_map_of_mem (List.mem_filter.2 ⟨hmem, henabled⟩), prompt, ?_, ?_, hfield⟩
  · simp only [hkind, hfind]
  · simp only [hkind, hfind, Option.map_some, Option.getD_some]

/-- The names that the preactions give values to are those of the variables asked for. -/
theorem exists_preaction_iff (hprompts : (settings.prompts.map (·.id)).Nodup) {name : String} :
    (∃ p ∈ buildPreactions settings registry c.config.preactions,
        p.dependent.contains name = true) ↔
      ∃ id, c.AsksFor settings id ∧
        ∃ record, registry.find? id = some record ∧ record.placeholderName = name := by
  constructor
  · rintro ⟨p, hp, hname⟩
    obtain ⟨step, hstep, rfl⟩ := List.mem_map.1 hp
    obtain ⟨hmem, henabled⟩ := List.mem_filter.1 hstep
    obtain ⟨enabled, ⟨promptId⟩⟩ := step
    obtain ⟨id, hid, record, hrecord⟩ := contains_select.1 hname
    -- a step whose prompt is missing depends on nothing
    cases hprompt : settings.prompt? promptId with
    | none => simp [hprompt] at hid
    | some prompt =>
      rw [hprompt] at hid
      obtain ⟨field, hfield, rfl⟩ := List.mem_map.1 hid
      obtain ⟨hprompt', rfl⟩ := (Settings.prompt?_eq_some_iff hprompts).1 hprompt
      exact ⟨field.target, ⟨_, hmem, henabled, prompt, hprompt', rfl, field, hfield, rfl⟩,
        record, hrecord⟩
  · rintro ⟨id, hasks, record, hrecord⟩
    obtain ⟨p, hp, prompt, -, hdependent, field, hfield, rfl⟩ :=
      hasks.exists_preaction hprompts registry
    refine ⟨p, hp, ?_⟩
    rw [hdependent]
    exact contains_select.2 ⟨field.target, List.mem_map_of_mem hfield, record, hrecord⟩

/-- The variables that depend on a preaction are those of the records that the registry finds under
the ids asked for. -/
theorem mem_dependentVariables (hcurrent : c.IsCurrent settings registry)
    (hnames : registry.NamesApart) (hprompts : (settings.prompts.map (·.id)).Nodup) :
    v ∈ (c.dependentVariables settings registry).members ↔
      ∃ id, c.AsksFor settings id ∧
        ∃ record, registry.find? id = some record ∧ v = record.toVariable := by
  -- the dependent set is what the snapshot has under the names of the preactions
  have hmem : v ∈ (c.dependentVariables settings registry).members ↔
      v ∈ registry.snapshot.members ∧ ∃ id, c.AsksFor settings id ∧
        ∃ record, registry.find? id = some record ∧ record.placeholderName = v.name := by
    rw [dependentVariables, dependentIn, VariableSet.members_filter, List.mem_filter,
      VariableSet.contains_foldl_merge, hcurrent.preactions_eq, exists_preaction_iff hprompts]
    simp [VariableSet.contains, VariableSet.names]
  rw [hmem]
  constructor
  · rintro ⟨hv, id, hasks, record, hfind, hname⟩
    refine ⟨id, hasks, record, hfind, ?_⟩
    -- the snapshot has one variable of the name, which is that of the record
    rw [VariableSet.mem_members_iff, ← hname, Registry.get?_snapshot hnames hfind] at hv
    exact (Option.some.inj hv).symm
  · rintro ⟨id, hasks, record, hfind, rfl⟩
    refine ⟨?_, id, hasks, record, hfind, rfl⟩
    rw [VariableSet.mem_members_iff]
    exact Registry.get?_snapshot hnames hfind

theorem contains_dependentVariables_iff (hcurrent : c.IsCurrent settings registry)
    (hnames : registry.NamesApart) (hprompts : (settings.prompts.map (·.id)).Nodup)
    {name : String} :
    (c.dependentVariables settings registry).contains name = true ↔
      ∃ id, c.AsksFor settings id ∧
        ∃ record, registry.find? id = some record ∧ record.placeholderName = name := by
  rw [VariableSet.contains_iff, VariableSet.names, List.mem_map]
  constructor
  · rintro ⟨v, hv, rfl⟩
    obtain ⟨id, hasks, record, hfind, rfl⟩ :=
      (mem_dependentVariables hcurrent hnames hprompts).1 hv
    exact ⟨id, hasks, record, hfind, rfl⟩
  · rintro ⟨id, hasks, record, hfind, rfl⟩
    exact ⟨record.toVariable,
      (mem_dependentVariables hcurrent hnames hprompts).2 ⟨id, hasks, record, hfind, rfl⟩, rfl⟩

/-- A record whose name is that of a variable of the second pass is asked for. -/
theorem asksFor_of_contains (hcurrent : c.IsCurrent settings registry)
    (hnames : registry.NamesApart) (hprompts : (settings.prompts.map (·.id)).Nodup)
    {record : CustomVariable} (hrecord : record ∈ registry.custom)
    (hcontains :
      (c.dependentVariables settings registry).contains record.placeholderName = true) :
    c.AsksFor settings record.id := by
  obtain ⟨id, hasks, asked, hfind, hname⟩ :=
    (contains_dependentVariables_iff hcurrent hnames hprompts).1 hcontains
  -- one name, so one id: the step asks for the record itself
  have hsame : asked.id = record.id := by
    refine hnames asked (List.mem_of_find?_eq_some hfind) record hrecord ?_
    rw [Registry.placeholderName_injective hname]
  have hasked : asked.id = id := by simpa using List.find?_some hfind
  rwa [← hasked, hsame] at hasks

theorem contains_placeholderName_iff (hcurrent : c.IsCurrent settings registry)
    (hnames : registry.NamesApart) (hprompts : (settings.prompts.map (·.id)).Nodup)
    {record : CustomVariable} (hfind : registry.find? record.id = some record) :
    (c.dependentVariables settings registry).contains record.placeholderName = true ↔
      c.AsksFor settings record.id := by
  constructor
  · exact asksFor_of_contains hcurrent hnames hprompts (List.mem_of_find?_eq_some hfind)
  · intro hasks
    rw [contains_dependentVariables_iff hcurrent hnames hprompts]
    exact ⟨record.id, hasks, record, hfind, rfl⟩

theorem dependentVariables_sublist :
    (c.dependentVariables settings registry).members.Sublist registry.snapshot.members :=
  List.filter_sublist

/-- The other variables are the rest of the snapshot. -/
theorem mem_independentVariables :
    v ∈ (c.independentVariables settings registry).members ↔
      v ∈ registry.snapshot.members ∧
        v ∉ (c.dependentVariables settings registry).members := by
  rw [independentVariables, VariableSet.mem_subtract]
  refine and_congr_right fun hv => not_congr ?_
  constructor
  · intro hname
    obtain ⟨w, hw, hwname⟩ := List.mem_map.1 hname
    -- members of the snapshot are told apart by their names
    have hwall := dependentVariables_sublist.subset hw
    rw [VariableSet.mem_members_iff] at hv hwall
    rw [hwname, hv] at hwall
    rw [Option.some.inj hwall]
    exact hw
  · exact fun hmem => List.mem_map_of_mem hmem

theorem isDisjoint_independentVariables :
    (c.dependentVariables settings registry).isDisjoint
      (c.independentVariables settings registry) = true := by
  have hother : (c.independentVariables settings registry).isDisjoint
      (c.dependentVariables settings registry) = true :=
    VariableSet.isDisjoint_subtract registry.snapshot _
  rw [VariableSet.isDisjoint_iff] at hother ⊢
  intro name hdependent hindependent
  exact hother name hindependent hdependent

theorem mem_snapshot_iff :
    v ∈ registry.snapshot.members ↔
      v ∈ (c.dependentVariables settings registry).members ∨
        v ∈ (c.independentVariables settings registry).members := by
  rw [mem_independentVariables]
  constructor
  · intro hall
    by_cases hv : v ∈ (c.dependentVariables settings registry).members
    · exact .inl hv
    · exact .inr ⟨hall, hv⟩
  · rintro (hv | ⟨hall, -⟩)
    · exact dependentVariables_sublist.subset hv
    · exact hall

end Command

namespace Host

variable {h : Host} {c : Command}

/-- In a session, the variables that depend on a command's preactions are those that its enabled
steps ask for, in the order of the snapshot, and the others are the rest of the snapshot.  They are
the sets of the two passes of every expansion of the command. -/
theorem partition_of_reachable (hreachable : h.Reachable) (hc : c ∈ h.commands) :
    let all := h.registry.snapshot
    let dependent := c.dependentVariables h.settings h.registry
    let independent := c.independentVariables h.settings h.registry
    (∀ v, v ∈ dependent.members ↔ ∃ id, c.AsksFor h.settings id ∧
        ∃ record, h.registry.find? id = some record ∧ v = record.toVariable) ∧
      ((h.registry.custom.map (·.id)).Nodup →
        ∀ v, v ∈ dependent.members ↔
          ∃ record ∈ h.registry.custom, c.AsksFor h.settings record.id ∧ v = record.toVariable) ∧
      dependent.members.Sublist all.members ∧
      (∀ v, v ∈ independent.members ↔ v ∈ all.members ∧ v ∉ dependent.members) ∧
      independent.members.Sublist all.members ∧
      dependent.isDisjoint independent = true ∧
      (∀ v, v ∈ all.members ↔ v ∈ dependent.members ∨ v ∈ independent.members) ∧
      (c.expansion h.settings h.registry).sets = [independent, dependent] := by
  intro all dependent independent
  have hcoherent := hreachable.coherent
  have hdependent : ∀ v, v ∈ dependent.members ↔ ∃ id, c.AsksFor h.settings id ∧
      ∃ record, h.registry.find? id = some record ∧ v = record.toVariable := fun v =>
    Command.mem_dependentVariables (hcoherent.current c hc) hcoherent.names hcoherent.prompts
  refine ⟨hdependent, ?_, Command.dependentVariables_sublist,
    fun v => Command.mem_independentVariables, List.filter_sublist,
    Command.isDisjoint_independentVariables, fun v => Command.mem_snapshot_iff, rfl⟩
  -- with distinct ids every record is the one found under its id
  intro hnodup v
  rw [hdependent v]
  constructor
  · rintro ⟨id, hasks, record, hfind, rfl⟩
    obtain ⟨hmem, rfl⟩ := (Registry.find?_eq_some_iff hnodup).1 hfind
    exact ⟨record, hmem, hasks, rfl⟩
  · rintro ⟨record, hmem, hasks, rfl⟩
    exact ⟨record.id, hasks, record, (Registry.find?_eq_some_iff hnodup).2 ⟨hmem, rfl⟩, rfl⟩

theorem partition_of_reachable_renamed :
    let h := ((oneQuestion "\x7b\x7b_place\x7d\x7d").perform (.inspect "c")).perform
      (.renameVariable "id-1" "place")
    ∃ hc : 0 < h.commands.length,
      h.Reachable ∧
      (∀ v, v ∈ (h.commands[0].dependentVariables h.settings h.registry).members ↔
        ∃ record ∈ h.registry.custom, h.commands[0].AsksFor h.settings record.id ∧
          v = record.toVariable) ∧
      ∀ c ∈ h.commands, (c.dependentVariables h.settings h.registry).names = ["_place"] := by
  intro h
  have hreachable : h.Reachable := .performed _ (.performed _ (reachable_oneQuestion _))
  have hlength : 0 < h.commands.length := by decide +kernel
  have hids : (h.registry.custom.map (·.id)).Nodup := by decide +kernel
  obtain ⟨-, hexact, -⟩ := partition_of_reachable hreachable (List.getElem_mem hlength)
  exact ⟨hlength, hreachable, hexact hids, by decide +kernel⟩

/-- A source of ids that starts over gives an id that is in use.  A prompt then asks for two
records, and the variable of the second does not depend on it. -/
theorem partition_repeatedId :
    let h := (oneQuestion "\x7b\x7b_1\x7d\x7d").perform (.createVariable ({} : IdSource).fresh.1)
    h.Reachable ∧ ∃ c ∈ h.commands, ∃ record ∈ h.registry.custom,
      c.AsksFor h.settings record.id ∧
        record.toVariable ∉ (c.dependentVariables h.settings h.registry).members := by
  intro h
  have hreachable : h.Reachable := .performed _ (reachable_oneQuestion _)
  have hc : { config := (Settings.oneQuestion "\x7b\x7b_1\x7d\x7d").commands[0] } ∈ h.commands :=
    List.mem_singleton_self _
  have hrecord : ⟨"id-1", "1", ""⟩ ∈ h.registry.custom := by decide +kernel
  refine ⟨hreachable, _, hc, _, hrecord, ?_, ?_⟩
  · exact ⟨{ kind := .prompt "p" }, List.mem_singleton_self _, rfl, _, List.mem_singleton_self _,
      rfl, _, List.mem_singleton_self _, rfl⟩
  · -- both records have the id, and the step gives a value to the name of the first only
    have hnames : ∀ c ∈ h.commands, (c.dependentVariables h.settings h.registry).names =
        ["_target"] := by decide +kernel
    intro hmem
    have hname := List.mem_map_of_mem (f := Variable.name) hmem
    rw [← VariableSet.names, hnames _ hc, List.mem_singleton] at hname
    simp [CustomVariable.toVariable, CustomVariable.placeholderName] at hname

end Host

end CommandTemplates
