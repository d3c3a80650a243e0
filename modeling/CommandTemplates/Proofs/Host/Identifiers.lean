/-
Which variables share an identifier.

The identifier of a built-in variable is its name, and that of a custom variable is its
id.  Nothing keeps the two apart: the rules of the settings compare ids with ids, and
the registry compares names with names.  So an identifier belongs to one variable, or
to a built-in variable and the one custom variable whose id is the name of the
built-in one (`Registry.Namesakes`).  A default value concerns no other variable.

* `Registry.identifiers_snapshot` — the identifiers of the variables of a registry;
* `Registry.eq_or_namesakes` — which of them are equal;
* `Host.default_of_freshReachable` — what this comes to for the defaults of a command;
* `Host.default_of_two` — a default value that stands in for two variables.
-/
import CommandTemplates.Proofs.Host.Sync
import CommandTemplates.Proofs.Template.Defaults

namespace CommandTemplates

namespace Registry

variable {r : Registry} {v w : Variable}

/-- A built-in variable and a custom one whose id is the name of the built-in one, in either
order. -/
def Namesakes (r : Registry) (v w : Variable) : Prop :=
  ∃ b ∈ Builtin.all, ∃ record ∈ r.custom, record.id = b.name ∧
    (v = b ∧ w = record.toVariable ∨ v = record.toVariable ∧ w = b)

/-- Whether no custom variable has the name of a built-in one for its id. -/
def IdsApart (r : Registry) : Prop :=
  ∀ record ∈ r.custom, record.id ∉ Builtin.all.map (·.name)

theorem identifier_of_builtin (hv : v ∈ Builtin.all) : v.identifier = v.name := by
  have hall : ∀ v ∈ Builtin.all, v.identifier = v.name := by decide
  exact hall v hv

theorem identifiers_snapshot (hnames : r.NamesApart) (hids : (r.custom.map (·.id)).Nodup) :
    r.snapshot.members.map (·.identifier) =
      Builtin.all.map (·.name) ++ r.custom.map (·.id) := by
  have hbuiltin : Builtin.all.map (·.identifier) = Builtin.all.map (·.name) :=
    List.map_congr_left fun v hv => identifier_of_builtin hv
  rw [members_snapshot hnames hids, List.map_append, hbuiltin, List.map_map]
  rfl

/-- Two variables of one identifier are the same, or one is built in and the other has its name for
an id. -/
theorem eq_or_namesakes (hnames : r.NamesApart) (hids : (r.custom.map (·.id)).Nodup)
    (hv : v ∈ r.snapshot.members) (hw : w ∈ r.snapshot.members)
    (heq : v.identifier = w.identifier) : v = w ∨ r.Namesakes v w := by
  rw [members_snapshot hnames hids, List.mem_append] at hv hw
  -- built-in variables are told apart by their names, custom ones by their ids; the mixed
  -- cases are the namesakes
  rcases hv with hv | hv <;> rcases hw with hw | hw
  · rw [identifier_of_builtin hv, identifier_of_builtin hw] at heq
    exact .inl (List.inj_on_of_nodup_map Builtin.nodup_map_name hv hw heq)
  · obtain ⟨record, hrecord, rfl⟩ := List.mem_map.1 hw
    rw [identifier_of_builtin hv] at heq
    exact .inr ⟨v, hv, record, hrecord, heq.symm, .inl ⟨rfl, rfl⟩⟩
  · obtain ⟨record, hrecord, rfl⟩ := List.mem_map.1 hv
    rw [identifier_of_builtin hw] at heq
    exact .inr ⟨w, hw, record, hrecord, heq, .inr ⟨rfl, rfl⟩⟩
  · obtain ⟨record, hrecord, rfl⟩ := List.mem_map.1 hv
    obtain ⟨record', hrecord', rfl⟩ := List.mem_map.1 hw
    rw [List.inj_on_of_nodup_map hids hrecord hrecord' heq]
    exact .inl rfl

theorem nodup_identifiers (hnames : r.NamesApart) (hids : (r.custom.map (·.id)).Nodup)
    (hapart : r.IdsApart) : (r.snapshot.members.map (·.identifier)).Nodup := by
  rw [identifiers_snapshot hnames hids, List.nodup_append]
  refine ⟨Builtin.nodup_map_name, hids, ?_⟩
  intro name hname id hid heq
  obtain ⟨record, hrecord, rfl⟩ := List.mem_map.1 hid
  exact hapart record hrecord (heq ▸ hname)

end Registry

namespace Command

variable {c : Command} {settings : Settings} {registry : Registry} {p : Placeholder}

/-- The command with other defaults. -/
def withFallbacks (c : Command) (fallbacks : SortedMap Fallback) : Command :=
  { c with config := { c.config with fallbacks } }

/-- The placeholders that ask for a variable with an identifier, in an expansion of a command. -/
theorem concerns_iff {first later : Context} {identifier : String} :
    (c.plan settings registry first later).Concerns identifier p ↔
      p.escaped = false ∧
        ∃ v ∈ registry.snapshot.members, v.name = p.name ∧ v.identifier = identifier := by
  refine and_congr_right fun _ => ?_
  rw [firstWith?_sets]
  constructor
  · rintro ⟨i, v, hfirst, hidentifier⟩
    obtain ⟨w, hw, heq⟩ := Option.map_eq_some_iff.1 hfirst
    obtain rfl : w = v := congrArg Prod.snd heq
    exact ⟨w, List.mem_of_find?_eq_some hw, by simpa using List.find?_some hw, hidentifier⟩
  · rintro ⟨v, hv, hname, hidentifier⟩
    have hget : registry.snapshot.get? p.name = some v :=
      hname ▸ VariableSet.mem_members_iff.1 hv
    rw [hget]
    exact ⟨_, v, rfl, hidentifier⟩

end Command

namespace Host

variable {h : Host}

/-- What a default value of a command concerns, in a session.  Two variables share an identifier
only if one is built in and the other has its name for an id, so without such an id the identifiers
are distinct.  Whatever is put at one identifier, the expansions of the command treat only the
placeholders of its variables differently: of one variable, or of such a pair; and what they report
of a template without such a placeholder is the same after any calls. -/
theorem default_of_freshReachable (hreachable : h.FreshReachable) (c : Command)
    {identifier : String} {fallbacks : SortedMap Fallback}
    (hother : ∀ key, key ≠ identifier → fallbacks.get? key = c.config.fallbacks.get? key) :
    let members := h.registry.snapshot.members
    let changed := c.withFallbacks fallbacks
    (∀ v ∈ members, ∀ w ∈ members, v.identifier = w.identifier →
        v = w ∨ h.registry.Namesakes v w) ∧
      (h.registry.IdsApart → (members.map (·.identifier)).Nodup) ∧
      (∀ first later p q,
        (c.plan h.settings h.registry first later).Differ
          (changed.plan h.settings h.registry first later) p →
        (c.plan h.settings h.registry first later).Differ
          (changed.plan h.settings h.registry first later) q →
        ∃ v ∈ members, ∃ w ∈ members, v.name = p.name ∧ w.name = q.name ∧
          v.identifier = identifier ∧ w.identifier = identifier ∧
          (v = w ∨ h.registry.Namesakes v w)) ∧
      ∀ calls, ∀ target ∈ c.templates,
        (∀ p ∈ Placeholder.scan target.2, p.escaped = false →
          ∀ v ∈ members, v.name = p.name → v.identifier ≠ identifier) →
        ((changed.expansion h.settings h.registry).afterCalls calls).result? target.1 =
          ((c.expansion h.settings h.registry).afterCalls calls).result? target.1 := by
  intro members changed
  have hids := hreachable.inSync.nodup_ids
  have hnames := hreachable.reachable.edited.namesApart
  have hpair : ∀ v ∈ members, ∀ w ∈ members, v.identifier = w.identifier →
      v = w ∨ h.registry.Namesakes v w := fun v hv w hw =>
    Registry.eq_or_namesakes hnames hids hv hw
  -- whatever tells the two plans apart asks for a variable of the identifier that was
  -- changed
  have hconcerned : ∀ first later p, (c.plan h.settings h.registry first later).Differ
      (changed.plan h.settings h.registry first later) p →
      ∃ v ∈ members, v.name = p.name ∧ v.identifier = identifier := by
    intro first later p hdiffer
    exact (Command.concerns_iff.1 (Plan.concerns_of_differ hother hdiffer)).2
  refine ⟨hpair, Registry.nodup_identifiers hnames hids, ?_, ?_⟩
  · intro first later p q hp hq
    obtain ⟨v, hv, hvname, hvidentifier⟩ := hconcerned first later p hp
    obtain ⟨w, hw, hwname, hwidentifier⟩ := hconcerned first later q hq
    exact ⟨v, hv, w, hw, hvname, hwname, hvidentifier, hwidentifier,
      hpair v hv w hw (hvidentifier.trans hwidentifier.symm)⟩
  · -- the plan is that of any contexts: which placeholders it concerns does not depend on them
    intro calls target htarget hfree
    obtain ⟨ctx⟩ : Nonempty Context := inferInstance
    refine Expansion.result?_withFallbacks (c.plan h.settings h.registry ctx ctx) hother
      (c.get?_of_mem_templates htarget) ?_ calls
    intro p hp hconcerns
    obtain ⟨hescaped, v, hv, hname, hidentifier⟩ := Command.concerns_iff.1 hconcerns
    exact hfree p hp hescaped v hv hname hidentifier

end Host

/-! ### A default for two variables -/

/-- Settings with a custom variable that has the name of a built-in one for its id, and a command
that shows both. -/
def Settings.namesake : Settings where
  customVariables := [⟨"environment", "x", ""⟩]
  commands := [{
    id := "c", command := { default := "\x7b\x7benvironment:UNSET\x7d\x7d-\x7b\x7b_x\x7d\x7d" },
    fallbacks := .ofList [("environment", .value "D")] }]

namespace Host

/-- The host of these settings when it is opened. -/
def namesake : Host where
  settings := .namesake
  registry := ⟨Settings.namesake.customVariables⟩
  environment := { root := ⟨"/"⟩, now := ⟨0, 0, 0⟩ }
  commands := Settings.namesake.commands.map fun config => { config }

theorem freshReachable_namesake : namesake.FreshReachable := by
  have hviolation : Settings.namesake.violation? = none := rfl
  have hload : Registry.load Settings.namesake.customVariables = .ok namesake.registry := by
    show Registry.load [⟨"environment", "x", ""⟩] = .ok ⟨[⟨"environment", "x", ""⟩]⟩
    decide +kernel
  have hopen : ofSettings .namesake namesake.environment = .ok namesake := by
    rw [ofSettings, Settings.validate, hviolation, hload]
    rfl
  exact .opened hopen

theorem default_of_freshReachable_namesake :
    let h := namesake
    let c := h.commands[0]
    h.FreshReachable ∧
      (∀ key, key ≠ "environment" →
        (SortedMap.empty : SortedMap Fallback).get? key = c.config.fallbacks.get? key) ∧
      (∀ v ∈ h.registry.snapshot.members, ∀ w ∈ h.registry.snapshot.members,
        v.identifier = w.identifier → v = w ∨ h.registry.Namesakes v w) ∧
      ∀ calls, (((c.withFallbacks .empty).expansion h.settings h.registry).afterCalls
          calls).result? Command.titleKey =
        ((c.expansion h.settings h.registry).afterCalls calls).result? Command.titleKey := by
  intro h c
  have hother : ∀ key, key ≠ "environment" →
      (SortedMap.empty : SortedMap Fallback).get? key = c.config.fallbacks.get? key := by
    intro key hkey
    show _ = ((SortedMap.empty : SortedMap Fallback).insert "environment" (.value "D")).get? key
    rw [SortedMap.get?_insert, if_neg (Ne.symm hkey)]
  obtain ⟨hpair, -, -, hreport⟩ :=
    default_of_freshReachable freshReachable_namesake c hother
  refine ⟨freshReachable_namesake, hother, hpair, ?_⟩
  intro calls
  have htitle : (Command.titleKey, c.config.title) ∈ c.templates := by simp [Command.templates]
  have hscan : Placeholder.scan c.config.title = [] := by decide +kernel
  exact hreport calls _ htitle (by simp [hscan])

/-- One default value stands in for two variables. -/
theorem default_of_two :
    let h := namesake
    let c := h.commands[0]
    let calls := [⟨.start, h.context none⟩, ⟨.finish, h.context none⟩]
    h.FreshReachable ∧
      (∃ v ∈ h.registry.snapshot.members, ∃ w ∈ h.registry.snapshot.members,
        v.name ≠ w.name ∧ v.identifier = w.identifier) ∧
      c.config.fallbacks.keys = ["environment"] ∧
      (((c.expansion h.settings h.registry).afterCalls calls).result? Command.textKey).map
        (·.content) = some (some "D-D") ∧
      ((((c.withFallbacks .empty).expansion h.settings h.registry).afterCalls calls).result?
        Command.textKey).map (·.errors) =
          some ["\x7b\x7benvironment\x7d\x7d: environment variable UNSET is not set",
            "\x7b\x7b_x\x7d\x7d has not been assigned a value"] := by
  intro h c calls
  exact ⟨freshReachable_namesake, by decide +kernel, by decide +kernel, by decide +kernel,
    by decide +kernel⟩

end Host

end CommandTemplates
