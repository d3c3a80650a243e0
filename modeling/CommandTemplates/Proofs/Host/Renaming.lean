/-
A new name for a custom variable changes no meaning.

Values and defaults are kept under the id of a record, and a prompt field asks for an id,
so a command that uses the new name where it used the old one does what it did.

* `Registry.Renames` — a registry before and after;
* `Host.Counterpart` — a command before, and one after it with the same settings, its text
  and its title apart;
* `Counterpart.agrees` — their plans make the same of a placeholder and what it becomes;
* `Host.exists_endsLike`, `Counterpart.exists_prepare` — so their expansions and their
  preparations come to the same end;
* `Host.endsLike_of_rename` — what this comes to in a session.
-/
import CommandTemplates.Proofs.Host.Partition
import CommandTemplates.Proofs.Template.Renaming

namespace CommandTemplates

/-! ### The registry -/

namespace Registry

variable {r r' : Registry} {record : CustomVariable} {id : VariableId} {name : String}

/-- A registry before and after the first record of an id got a new name. -/
structure Renames (r : Registry) (record : CustomVariable) (name : String) (r' : Registry) :
    Prop where
  found : r.find? record.id = some record
  renamed : r'.find? record.id = some { record with name }
  others : ∀ id, id ≠ record.id → r'.find? id = r.find? id
  /-- Every name but the two has the variable that it had. -/
  snapshot : ∀ n, n ≠ record.placeholderName → n ≠ "_" ++ name →
    r'.snapshot.get? n = r.snapshot.get? n
  names : r.NamesApart
  renamedNames : r'.NamesApart

/-- A new name changes what is found under the id, and under the two names, and nothing else. -/
theorem NamesApart.renames (hnames : r.NamesApart) (hfind : r.find? id = some record)
    (hrename : r.rename id name = .ok r') : r.Renames record name r' := by
  have hrenamedNames := hnames.rename hrename
  -- the records around the first one of the id are in both registries
  obtain ⟨hid, before, after, hsplit, hbefore⟩ := List.find?_eq_some_iff_append.1 hfind
  simp only [decide_eq_true_eq] at hid
  subst hid
  have hother : ∀ other ∈ before, other.id ≠ record.id := by simpa using hbefore
  obtain ⟨-, hr'⟩ := rename_eq_ok hrename
  rw [hsplit, updateFirst_append rfl hother] at hr'
  subst hr'
  refine ⟨hfind, ?_, ?_, ?_, hnames, hrenamedNames⟩
  · rw [find?, List.find?_append]
    have hnone : before.find? (fun c => c.id = record.id) = none := by simpa using hother
    simp [hnone]
  · intro other hne
    simp [find?, hsplit, List.find?_append, hne.symm]
  · intro n hold hnew
    have hold' : record.toVariable.name ≠ n := hold.symm
    have hnew' : ({ record with name } : CustomVariable).toVariable.name ≠ n := hnew.symm
    simp [snapshot, hsplit, VariableSet.get?_ofList, List.find?_append, hold', hnew']

end Registry

/-- A custom variable has the value that is kept under its id, whatever its name. -/
theorem CustomVariable.toOption_resolve (record : CustomVariable) (arguments : Arguments)
    (ctx : Context) :
    (record.toVariable.resolve arguments ctx).toOption = ctx.values.get? record.id := by
  show (record.toVariable.generate arguments ctx).toOption = ctx.values.get? record.id
  simp only [toVariable]
  cases ctx.values.get? record.id <;> rfl

namespace Host

variable {h h' : Host} {record : CustomVariable} {name : String} {c c' : Command}
  {event : Option Event} {p q : Placeholder}

/-! ### What becomes of a placeholder -/

/-- A command before a custom variable got a new name, and one after it that has the same settings,
its text and its title apart. -/
structure Counterpart (h : Host) (record : CustomVariable) (name : String) (h' : Host)
    (c c' : Command) : Prop where
  registry : h.registry.Renames record name h'.registry
  /-- The settings differ in the copies of the records alone. -/
  settings : h'.settings = { h.settings with customVariables := h'.settings.customVariables }
  environment : h'.environment = h.environment
  values : h'.values = h.values
  config : c'.config =
    { c.config with command := c'.config.command, title := c'.config.title }
  current : c.IsCurrent h.settings h.registry
  renamedCurrent : c'.IsCurrent h'.settings h'.registry
  distinct : (h.settings.prompts.map (·.id)).Nodup

theorem Counterpart.prompts (hc : h.Counterpart record name h' c c') :
    h'.settings.prompts = h.settings.prompts := by rw [hc.settings]

theorem Counterpart.steps (hc : h.Counterpart record name h' c c') :
    c'.config.preactions = c.config.preactions := by rw [hc.config]

theorem Counterpart.fallbacks (hc : h.Counterpart record name h' c c') :
    c'.config.fallbacks = c.config.fallbacks := by rw [hc.config]

theorem Counterpart.asksFor_iff (hc : h.Counterpart record name h' c c') {id : VariableId} :
    c'.AsksFor h'.settings id ↔ c.AsksFor h.settings id := by
  rw [Command.AsksFor, Command.AsksFor, hc.steps, hc.prompts]

theorem Counterpart.contains_iff (hc : h.Counterpart record name h' c c') {n : String} :
    (c.dependentVariables h.settings h.registry).contains n = true ↔
      ∃ id, c.AsksFor h.settings id ∧
        ∃ asked, h.registry.find? id = some asked ∧ asked.placeholderName = n :=
  Command.contains_dependentVariables_iff hc.current hc.registry.names hc.distinct

theorem Counterpart.contains_renamed_iff (hc : h.Counterpart record name h' c c') {n : String} :
    (c'.dependentVariables h'.settings h'.registry).contains n = true ↔
      ∃ id, c.AsksFor h.settings id ∧
        ∃ asked, h'.registry.find? id = some asked ∧ asked.placeholderName = n := by
  have hdistinct : (h'.settings.prompts.map (·.id)).Nodup := hc.prompts ▸ hc.distinct
  rw [Command.contains_dependentVariables_iff hc.renamedCurrent hc.registry.renamedNames hdistinct]
  simp only [hc.asksFor_iff]

/-- The new name belongs to the pass that the old one belonged to. -/
theorem Counterpart.contains_new (hc : h.Counterpart record name h' c c') :
    (c'.dependentVariables h'.settings h'.registry).contains ("_" ++ name) =
      (c.dependentVariables h.settings h.registry).contains record.placeholderName := by
  have hdistinct : (h'.settings.prompts.map (·.id)).Nodup := hc.prompts ▸ hc.distinct
  have hrenamed : (c'.dependentVariables h'.settings h'.registry).contains
      ({ record with name } : CustomVariable).placeholderName = true ↔
        c'.AsksFor h'.settings record.id :=
    Command.contains_placeholderName_iff hc.renamedCurrent hc.registry.renamedNames hdistinct
      hc.registry.renamed
  rw [Bool.eq_iff_iff,
    Command.contains_placeholderName_iff hc.current hc.registry.names hc.distinct hc.registry.found]
  exact hrenamed.trans hc.asksFor_iff

/-- All names but the two belong to the pass that they belonged to. -/
theorem Counterpart.contains_other (hc : h.Counterpart record name h' c c') {n : String}
    (hold : n ≠ record.placeholderName) (hnew : n ≠ "_" ++ name) :
    (c'.dependentVariables h'.settings h'.registry).contains n =
      (c.dependentVariables h.settings h.registry).contains n := by
  rw [Bool.eq_iff_iff, hc.contains_iff, hc.contains_renamed_iff]
  refine exists_congr fun id => and_congr_right fun _ => ?_
  by_cases hid : id = record.id
  · -- the record has one of the two names before, and the other after
    subst hid
    rw [hc.registry.found, hc.registry.renamed]
    have hold' : record.placeholderName ≠ n := hold.symm
    have hnew' : ({ record with name } : CustomVariable).placeholderName ≠ n := hnew.symm
    simp [hold', hnew']
  · rw [hc.registry.others id hid]

/-- The record is found under its old name before, and under its new name after, for the same
pass. -/
theorem Counterpart.exists_firstWith? (hc : h.Counterpart record name h' c c')
    (event : Option Event) (values : ValueStore) :
    ∃ i, firstWith? record.placeholderName (h.planFor c event values).sets =
        some (i, record.toVariable) ∧
      firstWith? ("_" ++ name) (h'.planFor c' event values).sets =
        some (i, ({ record with name } : CustomVariable).toVariable) := by
  have hget : h.registry.snapshot.get? record.placeholderName = some record.toVariable :=
    Registry.get?_snapshot hc.registry.names hc.registry.found
  have hget' : h'.registry.snapshot.get? ("_" ++ name) =
      some ({ record with name } : CustomVariable).toVariable :=
    Registry.get?_snapshot hc.registry.renamedNames hc.registry.renamed
  refine ⟨if (c.dependentVariables h.settings h.registry).contains record.placeholderName then 1
    else 0, ?_, ?_⟩
  · rw [planFor, Command.firstWith?_sets, hget]
    rfl
  · rw [planFor, Command.firstWith?_sets, hget', hc.contains_new]
    rfl

/-- Every other name has the variable that it had. -/
theorem Counterpart.firstWith?_other (hc : h.Counterpart record name h' c c') {n : String}
    (hold : n ≠ record.placeholderName) (hnew : n ≠ "_" ++ name) (event : Option Event)
    (values : ValueStore) :
    firstWith? n (h'.planFor c' event values).sets =
      firstWith? n (h.planFor c event values).sets := by
  rw [planFor, planFor, Command.firstWith?_sets, Command.firstWith?_sets,
    hc.registry.snapshot n hold hnew, hc.contains_other hold hnew]

theorem Counterpart.context_eq (hc : h.Counterpart record name h' c c') (values : ValueStore)
    (i : Nat) :
    (h'.planFor c' event values).context i = (h.planFor c event values).context i := by
  simp only [Plan.context, planFor, Command.plan, Host.context, hc.environment, hc.values]

/-- The two plans make the same of a placeholder and what it becomes, unless it had the new name
before. -/
theorem Counterpart.agrees (hc : h.Counterpart record name h' c c')
    (hnew : ¬ p.Names ("_" ++ name))
    (hrenamed : Placeholder.Renamed record.placeholderName ("_" ++ name) p q)
    (event : Option Event) (values : ValueStore) :
    (h.planFor c event values).Agrees (h'.planFor c' event values) p q := by
  cases hescaped : p.escaped with
  | true =>
    exact Plan.agrees_of_escaped hescaped (hrenamed.escaped.trans hescaped)
      (hrenamed.unescaped hescaped)
  | false =>
    have hescaped' : q.escaped = false := hrenamed.escaped.trans hescaped
    have hqname := hrenamed.name
    -- either it had the old name and has the new one, or it has neither
    by_cases hname : p.name = record.placeholderName
    · rw [if_pos ⟨hescaped, hname⟩] at hqname
      obtain ⟨i, hfirst, hfirst'⟩ := hc.exists_firstWith? event values
      rw [← hname] at hfirst
      rw [← hqname] at hfirst'
      refine Plan.agrees_of_answer hescaped hescaped' hfirst hfirst' ?_
      -- both records have the same id, so the values and the defaults are the same
      refine Plan.toOption_answer_congr hrenamed.arguments rfl rfl hc.fallbacks ?_
      intro arguments
      rw [hc.context_eq, CustomVariable.toOption_resolve, CustomVariable.toOption_resolve]
    · rw [if_neg fun h => hname h.2] at hqname
      have hsame := hc.firstWith?_other hname (fun h => hnew ⟨hescaped, h⟩) event values
      cases hfirst : firstWith? p.name (h.planFor c event values).sets with
      | none =>
        exact Plan.agrees_of_unknown hescaped hescaped' hfirst (by rw [hqname, hsame, hfirst])
      | some found =>
        refine Plan.agrees_of_answer hescaped hescaped' hfirst
          (by rw [hqname, hsame, hfirst]) ?_
        refine Plan.toOption_answer_congr hrenamed.arguments rfl rfl hc.fallbacks ?_
        intro arguments
        rw [hc.context_eq]

/-- Templates correspond to what they become, unless they held the new name before. -/
theorem Counterpart.corresponds (hc : h.Counterpart record name h' c c')
    (hcharacters : ∀ ch ∈ name.toList, Text.isNameCharacter ch = true) {template : String}
    (hnew : ∀ p ∈ Placeholder.scan template, ¬ p.Names ("_" ++ name)) (event : Option Event)
    (values : ValueStore) :
    (h.planFor c event values).Corresponds (h'.planFor c' event values) template
      (renameIn record.placeholderName ("_" ++ name) template) := by
  have hlist : ("_" ++ name).toList = '_' :: name.toList := String.toList_append
  have hunderscore : Text.isNameCharacter '_' = true := by decide
  refine Plan.corresponds_renameIn ?_ ?_ fun p hp q hrenamed => hc.agrees (hnew p hp) hrenamed _ _
  · rw [hlist]
    exact List.cons_ne_nil _ _
  · rw [hlist]
    exact List.forall_mem_cons.2 ⟨hunderscore, hcharacters⟩

end Host

/-! ### Expansions -/

namespace Expansion

variable {x y : Expansion} {first later : Context} {started ended : Bool}

/-- The answers of the two calls of an expansion, and where they leave it. -/
def Ends (x : Expansion) (first later : Context) (started ended : Bool) (y : Expansion) : Prop :=
  ∃ z, x.start first = .ok (started, z) ∧ z.finish later = .ok (ended, y)

theorem Ends.afterCalls (h : x.Ends first later started ended y) :
    x.afterCalls [⟨.start, first⟩, ⟨.finish, later⟩] = y := by
  obtain ⟨z, hstart, hfinish⟩ := h
  simp [Expansion.afterCalls, perform, hstart, hfinish]

end Expansion

namespace Command

variable {plan plan' : Plan} {c c' : Command}

/-- Whether the templates of two commands correspond for their plans. -/
structure Corresponds (plan plan' : Plan) (c c' : Command) : Prop where
  text : plan.Corresponds plan' c.text c'.text
  title : plan.Corresponds plan' c.config.title c'.config.title

theorem Corresponds.mistakes_eq_nil_iff (h : Corresponds plan plan' c c') (i : Nat) :
    c'.mistakes plan' i = [] ↔ c.mistakes plan i = [] := by
  rw [Command.mistakes_eq_nil, Command.mistakes_eq_nil]
  exact and_congr (h.text.errorsIn_eq_nil_iff i) (h.title.errorsIn_eq_nil_iff i)

theorem Corresponds.messages_eq_nil_iff (h : Corresponds plan plan' c c') (k : Nat) :
    plan'.messages c'.templates k = [] ↔ plan.messages c.templates k = [] := by
  simp only [Plan.messages, values_templates, List.flatMap_eq_nil_iff, List.forall_mem_cons]
  exact and_congr (h.text.errorsAfter_eq_nil_iff k)
    (and_congr (h.title.errorsAfter_eq_nil_iff k) (by simp))

end Command

namespace Host

variable {h h' : Host} {record : CustomVariable} {name : String} {c c' : Command}
  {event : Option Event} {values : ValueStore}

/-- What a command's expansion comes to is decided by the messages and the results that the plan has
for its templates. -/
theorem exists_ends (h : Host) (c : Command) (event : Option Event) (values : ValueStore) :
    ∃ y, (c.expansion h.settings h.registry).Ends (h.context event)
        ({ h with values }.context event)
        (decide ((h.planFor c event values).messages c.templates 1 = []))
        (decide ((h.planFor c event values).messages c.templates 2 = [])) y ∧
      ∀ target ∈ c.templates, y.result? target.1 =
        some ((h.planFor c event values).resultAfter target.2 2 true) := by
  obtain ⟨x, hstart, hphase, hreport⟩ := Plan.exists_start_messages
    (h.planFor c event values) c.templates (List.cons_ne_nil _ _)
  obtain ⟨y, hfinish, -⟩ := hreport.exists_finish hphase (List.cons_ne_nil _ _)
  have hends : (c.expansion h.settings h.registry).Ends (h.context event)
      ({ h with values }.context event) _ _ y := ⟨x, hstart, hfinish⟩
  have hexpansion : c.expansion h.settings h.registry = Expansion.ofTargets
      (h.planFor c event values).sets (h.planFor c event values).fallbacks c.templates := rfl
  refine ⟨y, hends, fun target htarget => ?_⟩
  -- the results are those that the plan has after two passes
  rw [← hends.afterCalls, hexpansion]
  exact Expansion.result?_finished (h.planFor c event values) (c.get?_of_mem_templates htarget)

/-- Expansions of templates that correspond answer alike, and their targets come to the same end. -/
theorem exists_endsLike
    (hpair : Command.Corresponds (h.planFor c event values) (h'.planFor c' event values) c c') :
    ∃ started ended y y',
      (c.expansion h.settings h.registry).Ends (h.context event)
          ({ h with values }.context event) started ended y ∧
        (c'.expansion h'.settings h'.registry).Ends (h'.context event)
          ({ h' with values }.context event) started ended y' ∧
        ∀ key ∈ [Command.textKey, Command.titleKey], ∃ r r', y.result? key = some r ∧
          y'.result? key = some r' ∧ r.EndsLike r' := by
  obtain ⟨y, hends, hresults⟩ := h.exists_ends c event values
  obtain ⟨y', hends', hresults'⟩ := h'.exists_ends c' event values
  simp only [hpair.messages_eq_nil_iff] at hends'
  refine ⟨_, _, y, y', hends, hends', ?_⟩
  simp only [Command.templates, List.forall_mem_cons, List.not_mem_nil, false_imp_iff,
    implies_true, and_true] at hresults hresults' ⊢
  exact ⟨⟨_, _, hresults.1, hresults'.1, hpair.text.endsLike rfl⟩,
    ⟨_, _, hresults.2, hresults'.2, hpair.title.endsLike rfl⟩⟩

end Host

/-! ### Preparations -/

/-- A run of preactions depends on their prompts alone. -/
theorem runPreactions_congr {m : Type → Type} [Monad m] (channel : PromptChannel m)
    {ps qs : List PromptPreaction}
    (h : qs.map (fun p => (p.promptId, p.prompt)) = ps.map fun p => (p.promptId, p.prompt))
    (values : ValueStore) : runPreactions channel qs values = runPreactions channel ps values := by
  induction ps generalizing qs values with
  | nil => rw [List.map_eq_nil_iff.1 h]
  | cons p ps ih =>
    obtain ⟨q, qs, rfl, hq, hqs⟩ := List.map_eq_cons_iff.1 h
    obtain ⟨hid, hprompt⟩ := Prod.mk.inj hq
    have hexecute : q.execute channel values = p.execute channel values := by
      rw [PromptPreaction.execute, PromptPreaction.execute, hid, hprompt]
    simp only [runPreactions, hexecute, ih hqs]

/-- Two preparations that come to the same end: both have the same command ready, or both are
cancelled, or both have failed. -/
inductive Preparation.EndsLike : Preparation → Preparation → Prop
  | ready (prepared : PreparedCommand) : EndsLike (.ready prepared) (.ready prepared)
  | cancelled : EndsLike .cancelled .cancelled
  | failed (messages messages' : List String) : EndsLike (.failed messages) (.failed messages')

theorem Preparation.endsLike_refl (outcome : Preparation) : outcome.EndsLike outcome := by
  cases outcome with
  | ready prepared => exact .ready prepared
  | cancelled => exact .cancelled
  | failed messages => exact .failed messages messages

namespace Host

variable {σ : Type} {h h' : Host} {record : CustomVariable} {name : String} {c c' : Command}
  {event : Option Event} {values : ValueStore}

/-- The prompts of the preactions are those of before. -/
theorem Counterpart.runPreactions_eq (hc : h.Counterpart record name h' c c')
    {m : Type → Type} [Monad m] (channel : PromptChannel m) (values : ValueStore) :
    runPreactions channel (c'.preactions h'.settings h'.registry) values =
      runPreactions channel (c.preactions h.settings h.registry) values := by
  refine runPreactions_congr channel ?_ values
  have hprompt : h'.settings.prompt? = h.settings.prompt? := by
    funext id
    rw [Settings.prompt?, Settings.prompt?, hc.prompts]
  rw [hc.current.preactions_eq, hc.renamedCurrent.preactions_eq, hc.steps]
  simp only [Command.buildPreactions, List.map_map, hprompt]
  rfl

/-- Commands that show the same texts make the same command ready. -/
theorem Counterpart.prepared_eq (hc : h.Counterpart record name h' c c') {y y' : Expansion}
    (htext : (y'.result? Command.textKey).bind (·.content) =
      (y.result? Command.textKey).bind (·.content))
    (htitle : (y'.result? Command.titleKey).bind (·.content) =
      (y.result? Command.titleKey).bind (·.content)) :
    c'.prepared h'.settings y' = c.prepared h.settings y := by
  have hid : c'.id = c.id := by rw [Command.id, hc.config, Command.id]
  have hshell : c'.shell h'.settings = c.shell h.settings := by
    rw [Command.shell, hc.config, hc.settings]
    rfl
  have hconfirm : c'.config.confirmExecution = c.config.confirmExecution := by rw [hc.config]
  have hignore : c'.config.ignoreErrorCodes = c.config.ignoreErrorCodes := by rw [hc.config]
  simp only [Command.prepared, htext, htitle, hid, hshell, hconfirm, hignore]

/-- Behind the preactions, expansions of templates that correspond come to the same end. -/
theorem Counterpart.exists_conclude (hc : h.Counterpart record name h' c c')
    (hpair : Command.Corresponds (h.planFor c event values) (h'.planFor c' event values) c c')
    (hfirst : c.mistakes (h.planFor c event h.values) 0 = [])
    (hfirst' : c'.mistakes (h'.planFor c' event h'.values) 0 = []) {x x' : Expansion}
    (hstart : (c.expansion h.settings h.registry).start (h.context event) = .ok (true, x))
    (hstart' : (c'.expansion h'.settings h'.registry).start (h'.context event) = .ok (true, x')) :
    ∃ outcome outcome', h.conclude c event x values none = .ok outcome ∧
      h'.conclude c' event x' values none = .ok outcome' ∧ outcome.EndsLike outcome' := by
  obtain ⟨z, y, hz, hfinish, hreport, -⟩ := exists_passes values hfirst
  obtain ⟨z', y', hz', hfinish', hreport', -⟩ := exists_passes values hfirst'
  -- the expansions that were started are the ones that go on
  obtain ⟨-, rfl⟩ := Prod.mk.inj (Except.ok.inj (hstart.symm.trans hz))
  obtain ⟨-, rfl⟩ := Prod.mk.inj (Except.ok.inj (hstart'.symm.trans hz'))
  have hsecond := hpair.mistakes_eq_nil_iff 1
  simp only [conclude, hfinish, hfinish', hsecond]
  by_cases hnone : c.mistakes (h.planFor c event values) 1 = []
  · -- no pass has a message about either template, so both are shown expanded
    rw [h.mistakes_zero_planFor c event h.values values] at hfirst
    obtain ⟨htext, htitle⟩ := c.errorsAfter_two hfirst hnone
    have hshown := hreport.content c.get?_templates_text htext
    have hshown' := hreport.content c.get?_templates_title htitle
    have hrenamed := hreport'.content c'.get?_templates_text
      ((hpair.text.errorsAfter_eq_nil_iff 2).2 htext)
    have hrenamed' := hreport'.content c'.get?_templates_title
      ((hpair.title.errorsAfter_eq_nil_iff 2).2 htitle)
    have hlength : (h.planFor c event values).sets.length = 1 + 1 := rfl
    rw [hpair.text.substitute_shown hlength htext, ← hshown] at hrenamed
    rw [hpair.title.substitute_shown hlength htitle, ← hshown'] at hrenamed'
    rw [decide_eq_true hnone]
    refine ⟨_, _, rfl, rfl, ?_⟩
    rw [hc.prepared_eq hrenamed hrenamed']
    exact .ready _
  · rw [decide_eq_false hnone]
    exact ⟨_, _, rfl, rfl, .failed _ _⟩

/-- Preparations of commands whose templates correspond ask the same, store the same, and come to
the same end. -/
theorem Counterpart.exists_prepare (hc : h.Counterpart record name h' c c')
    (hpair : ∀ values,
      Command.Corresponds (h.planFor c event values) (h'.planFor c' event values) c c')
    (channel : PromptChannel (StateM σ)) (s : σ) :
    ∃ outcome outcome' values s',
      (h.prepare channel c event).run s =
          ((.ok outcome, { h.rememberPreactions c.id with values }), s') ∧
        (h'.prepare channel c' event).run s =
          ((.ok outcome', { h'.rememberPreactions c'.id with values }), s') ∧
        outcome.EndsLike outcome' := by
  have hfirst : c'.mistakes (h'.planFor c' event h'.values) 0 = [] ↔
      c.mistakes (h.planFor c event h.values) 0 = [] := by
    rw [hc.values]
    exact (hpair h.values).mistakes_eq_nil_iff 0
  by_cases hnone : c.mistakes (h.planFor c event h.values) 0 = []
  · obtain ⟨x, hstart, -, -⟩ := h.exists_start c event h.values
    obtain ⟨x', hstart', -, -⟩ := h'.exists_start c' event h'.values
    rw [decide_eq_true hnone] at hstart
    rw [decide_eq_true (hfirst.2 hnone)] at hstart'
    have hrun := prepare_of_start channel s hstart
    have hrun' := prepare_of_start channel s hstart'
    -- from here on both follow the same run of the preactions
    rw [hc.runPreactions_eq, hc.values] at hrun'
    generalize runPreactions channel (c.preactions h.settings h.registry) h.values s = run
      at hrun hrun'
    obtain ⟨⟨stopped, values⟩, s'⟩ := run
    cases stopped with
    | some outcome => exact ⟨outcome, outcome, values, s', hrun, hrun', outcome.endsLike_refl⟩
    | none =>
      obtain ⟨outcome, outcome', hconclude, hconclude', hends⟩ :=
        hc.exists_conclude (hpair values) hnone (hfirst.2 hnone) hstart hstart'
      dsimp only at hrun hrun'
      rw [hconclude] at hrun
      rw [hconclude'] at hrun'
      exact ⟨outcome, outcome', values, s', hrun, hrun', hends⟩
  · -- a mistake in the first pass: neither asks anything
    have hrun := prepare_of_mistakes channel s hnone
    have hrun' := prepare_of_mistakes channel s (mt hfirst.1 hnone)
    have hsame : h'.rememberPreactions c'.id =
        { h'.rememberPreactions c'.id with values := h.values } := by
      rw [← hc.values]
      rfl
    rw [hsame] at hrun'
    exact ⟨_, _, h.values, s, hrun, hrun', .failed _ _⟩

end Host

/-! ### A session -/

/-- A command with another text, on every platform, and another title. -/
def Command.withTemplates (c : Command) (text title : String) : Command :=
  { c with config := { c.config with command := { default := text }, title } }

namespace Host

variable {h h' : Host} {c c' : Command}

theorem renameVariable_eq_ok {id : VariableId} {name : String}
    (hrename : h.renameVariable id name = .ok h') :
    ∃ registry, h.registry.rename id name = .ok registry ∧ h' = h.withRegistry registry := by
  rw [renameVariable] at hrename
  cases hregistry : h.registry.rename id name with
  | error e =>
    rw [hregistry] at hrename
    simp [Except.mapError, bind, Except.bind] at hrename
  | ok registry =>
    rw [hregistry] at hrename
    exact ⟨registry, rfl, (Except.ok.inj hrename).symm⟩

/-- A new name for a custom variable changes no meaning: a command that uses the new name where it
used the old one, and has the same settings otherwise, does what it did.  Both expansions give the
same answers, with any values after the first pass, and their targets come to the same end.  So do
both preparations: they ask the same and store the same. -/
theorem endsLike_of_rename {id : VariableId} {old name : String} (hreachable : h.Reachable)
    (hold : h.registry.placeholderName? id = some old)
    (hrename : h.renameVariable id name = .ok h')
    (hcharacters : ∀ ch ∈ name.toList, Text.isNameCharacter ch = true)
    (hc : c ∈ h.commands) (hc' : c' ∈ h'.commands) (hconfig : c'.config = c.config)
    {text title : String}
    (htext : ∀ p ∈ Placeholder.scan text, ¬ p.Names ("_" ++ name))
    (htitle : ∀ p ∈ Placeholder.scan title, ¬ p.Names ("_" ++ name)) :
    let before := c.withTemplates text title
    let after := c'.withTemplates (renameIn old ("_" ++ name) text)
      (renameIn old ("_" ++ name) title)
    (∀ event values, ∃ started ended y y',
      (before.expansion h.settings h.registry).Ends (h.context event)
          ({ h with values }.context event) started ended y ∧
        (after.expansion h'.settings h'.registry).Ends (h'.context event)
          ({ h' with values }.context event) started ended y' ∧
        ∀ key ∈ [Command.textKey, Command.titleKey], ∃ r r', y.result? key = some r ∧
          y'.result? key = some r' ∧ r.EndsLike r') ∧
      ∀ {σ : Type} (channel : PromptChannel (StateM σ)) (s : σ) (event : Option Event),
        ∃ outcome outcome' values s',
          (h.prepare channel before event).run s =
              ((.ok outcome, { h.rememberPreactions c.id with values }), s') ∧
            (h'.prepare channel after event).run s =
              ((.ok outcome', { h'.rememberPreactions c'.id with values }), s') ∧
            outcome.EndsLike outcome' := by
  intro before after
  -- the old name is that of the first record of the id, and the new registry has it renamed
  obtain ⟨record, hfind, rfl⟩ := Option.map_eq_some_iff.1 hold
  obtain ⟨registry, hregistry, rfl⟩ := renameVariable_eq_ok hrename
  obtain ⟨hcurrent, hnames, hprompts⟩ := hreachable.coherent
  have hrenames : h.registry.Renames record name registry := hnames.renames hfind hregistry
  have hrenamed : (h.withRegistry registry).Coherent :=
    hreachable.coherent.withRegistry hrenames.renamedNames
  -- `before` and `after` are commands of the two hosts with other templates, which changes
  -- nothing that a counterpart needs
  have hpair : h.Counterpart record name (h.withRegistry registry) before after :=
    { registry := hrenames
      settings := rfl
      environment := rfl
      values := rfl
      config := by
        simp only [before, after, Command.withTemplates, hconfig]
      current := hcurrent c hc
      renamedCurrent := hrenamed.current c' hc'
      distinct := hprompts }
  have hcorresponds : ∀ event values, Command.Corresponds (h.planFor before event values)
      ((h.withRegistry registry).planFor after event values) before after := fun event values =>
    ⟨hpair.corresponds hcharacters htext event values,
      hpair.corresponds hcharacters htitle event values⟩
  -- what corresponds for a plan expands to the same end, and is prepared to the same end
  refine ⟨fun event values => exists_endsLike (hcorresponds event values), ?_⟩
  intro σ channel s event
  exact hpair.exists_prepare (hcorresponds event) channel s

/-- A variable that has a value, a prompt that asks for it again, and a text that also shows the old
name as it is written. -/
theorem endsLike_of_rename_asked :
    let text := "echo \x7b\x7b_target\x7d\x7d \x7b\x7b!_target\x7d\x7d"
    let renamed := "echo \x7b\x7b_place\x7d\x7d \x7b\x7b!_target\x7d\x7d"
    let h := (oneQuestion text).perform (.prepare "c" none [.ok (some ["a"])])
    let h' := h.withRegistry ⟨[⟨"id-1", "place", ""⟩]⟩
    let answer : Script := { replies := [.ok (some ["b"])] }
    h.Reachable ∧ h.values.get? "id-1" = some "a" ∧
      h.registry.placeholderName? "id-1" = some "_target" ∧
      h.renameVariable "id-1" "place" = .ok h' ∧ renameIn "_target" "_place" text = renamed ∧
      ∃ c ∈ h.commands, ∃ c' ∈ h'.commands, c'.config = c.config ∧
        (∃ outcome outcome' values s',
          (h.prepare Script.channel (c.withTemplates text "") none).run answer =
              ((.ok outcome, { h.rememberPreactions c.id with values }), s') ∧
            (h'.prepare Script.channel (c'.withTemplates renamed "") none).run answer =
              ((.ok outcome', { h'.rememberPreactions c'.id with values }), s') ∧
            outcome.EndsLike outcome') ∧
        ((h'.prepare Script.channel (c'.withTemplates renamed "") none).run answer).1.1 =
          .ok (.ready ⟨"c", "/bin/sh", "echo b \x7b\x7b_target\x7d\x7d", "", false, []⟩) := by
  intro text renamed h h' answer
  have hreachable : h.Reachable := .performed _ (reachable_oneQuestion _)
  have hold : h.registry.placeholderName? "id-1" = some "_target" := by decide +kernel
  have hregistry : h.registry.rename "id-1" "place" = .ok ⟨[⟨"id-1", "place", ""⟩]⟩ := by
    decide +kernel
  have hrename : h.renameVariable "id-1" "place" = .ok h' := by
    rw [renameVariable, hregistry]
    rfl
  have hrenamed : renameIn "_target" "_place" text = renamed := by decide +kernel
  have hcharacters : ∀ ch ∈ "place".toList, Text.isNameCharacter ch = true := by
    rw [← List.all_eq_true]
    decide +kernel
  have htext : ∀ p ∈ Placeholder.scan text, ¬ p.Names ("_" ++ "place") := by decide +kernel
  have htitle : ∀ p ∈ Placeholder.scan "", ¬ p.Names ("_" ++ "place") := by decide +kernel
  have hready : ∃ c ∈ h.commands,
      ((h'.prepare Script.channel (c.forget.withTemplates renamed "") none).run answer).1.1 =
        .ok (.ready ⟨"c", "/bin/sh", "echo b \x7b\x7b_target\x7d\x7d", "", false, []⟩) := by
    decide +kernel
  -- the command that remembers no preactions is the one of the renamed host
  obtain ⟨c, hc, hready⟩ := hready
  have hc' : c.forget ∈ h'.commands := List.mem_map_of_mem hc
  obtain ⟨-, hprepare⟩ := endsLike_of_rename hreachable hold hrename hcharacters hc hc' rfl htext
    htitle
  have hname : "_" ++ "place" = "_place" := by decide
  have hempty : renameIn "_target" "_place" "" = "" := by decide +kernel
  have hboth := hprepare Script.channel answer none
  rw [hname, hrenamed, hempty] at hboth
  exact ⟨hreachable, by decide +kernel, hold, hrename, hrenamed, c, hc, c.forget, hc', rfl, hboth,
    hready⟩

end Host

end CommandTemplates
