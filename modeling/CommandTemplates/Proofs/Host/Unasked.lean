/-
Custom variables that no enabled step of a command asks for.

A step that is switched off asks for nothing, so its variables belong to the first
pass, like any variable that no prompt is for.  The values are shared by all commands:
such a variable has one as soon as another command was prepared and its prompt was
answered.  As long as there is none, every preparation ends in the first pass with a
message that names the variable.

* `Host.exists_firstWith?_unasked` — such a variable belongs to the first pass;
* `Host.prepare_unasked` — what a command makes of it after any session in which values
  come from prompts alone;
* `Host.ready_answered_elsewhere` — a prompt that is switched off in one command and answered
  in another.
-/
import CommandTemplates.Proofs.Host.Values
import CommandTemplates.Proofs.Host.Partition
import CommandTemplates.Proofs.Variable.Address

namespace CommandTemplates

namespace Plan

variable {plan : Plan} {i : Nat} {p : Placeholder} {record : CustomVariable}

/-- The message about a placeholder that asks for a custom variable in vain. -/
def unresolvedMessage (p : Placeholder) : String :=
  if p.arguments = [] then (VariableError.noValue p.name).message
  else misplaced p (ArgumentError.tooMany p.name 0 p.arguments.length).message

/-- A custom variable takes no arguments, and without a value or a default it has only a message. -/
theorem answer_toVariable_eq_error (hname : record.placeholderName = p.name)
    (hdefault : plan.fallbacks.get? record.id = none)
    (hvain : (plan.context i).values.get? record.id = none ∨ p.arguments ≠ []) :
    plan.answer i record.toVariable p = .error (unresolvedMessage p) := by
  by_cases harguments : p.arguments = []
  · have hnone : (plan.context i).values.get? record.id = none :=
      hvain.resolve_right fun hsome => hsome harguments
    rw [record.answer_toVariable harguments, CustomVariable.outcome, hnone, hdefault,
      unresolvedMessage, if_pos harguments, hname]
  · rw [answer_of_surplus rfl harguments, unresolvedMessage, if_neg harguments]

end Plan

namespace Host

variable {σ : Type} {h : Host} {c : Command} {record : CustomVariable} {p : Placeholder}
  {event : Option Event}

/-- A custom variable that no enabled step asks for belongs to the first pass. -/
theorem exists_firstWith?_unasked (hreachable : h.Reachable) (hc : c ∈ h.commands)
    (hrecord : record ∈ h.registry.custom) (hunasked : ¬ c.AsksFor h.settings record.id)
    (event : Option Event) (values : ValueStore) :
    ∃ first : CustomVariable, first.placeholderName = record.placeholderName ∧
      first.id = record.id ∧
      firstWith? record.placeholderName (h.planFor c event values).sets =
        some (0, first.toVariable) := by
  obtain ⟨hcurrent, hnames, hprompts⟩ := hreachable.coherent
  obtain ⟨first, -, hname, hid, hget⟩ := Registry.exists_get?_snapshot hnames hrecord
  -- a name of the second pass belongs to a record that some step asks for, so this one is of
  -- the first
  have hindependent :
      (c.dependentVariables h.settings h.registry).contains record.placeholderName = false := by
    rw [← Bool.not_eq_true]
    intro hcontains
    exact hunasked (Command.asksFor_of_contains (hcurrent c hc) hnames hprompts hrecord hcontains)
  refine ⟨first, hname, hid, ?_⟩
  rw [planFor, Command.firstWith?_sets, hget, hindependent]
  rfl

/-- Without a value, or with arguments, the first pass has a message about its placeholder. -/
theorem mem_mistakes_unasked (hreachable : h.Reachable) (hc : c ∈ h.commands)
    (hrecord : record ∈ h.registry.custom) (hunasked : ¬ c.AsksFor h.settings record.id)
    (hdefault : c.config.fallbacks.get? record.id = none)
    (hp : p ∈ Placeholder.scan c.text ∨ p ∈ Placeholder.scan c.config.title)
    (hescaped : p.escaped = false) (hname : p.name = record.placeholderName)
    (hvain : h.values.get? record.id = none ∨ p.arguments ≠ []) (event : Option Event) :
    Plan.unresolvedMessage p ∈ c.mistakes (h.planFor c event h.values) 0 := by
  obtain ⟨first, hfirstName, hid, hfirst⟩ :=
    exists_firstWith?_unasked hreachable hc hrecord hunasked event h.values
  rw [← hname] at hfirst hfirstName
  rw [← hid] at hdefault hvain
  have hanswer : (h.planFor c event h.values).answer 0 first.toVariable p =
      .error (Plan.unresolvedMessage p) :=
    Plan.answer_toVariable_eq_error hfirstName hdefault hvain
  refine c.mem_mistakes_iff.2 ⟨p, hp, ?_⟩
  rw [(Plan.settled?_of_answer hescaped hfirst Nat.one_pos).2, hanswer]

/-- With a value its placeholder, without arguments, is replaced by the value. -/
theorem replaced_unasked (hreachable : h.Reachable) (hc : c ∈ h.commands)
    (hrecord : record ∈ h.registry.custom) (hunasked : ¬ c.AsksFor h.settings record.id)
    (hescaped : p.escaped = false) (hname : p.name = record.placeholderName)
    (harguments : p.arguments = []) {value : String}
    (hvalue : h.values.get? record.id = some value) (values : ValueStore) (text : String) :
    (h.planFor c event values).Replaced 2 p text ↔ text = value := by
  obtain ⟨first, -, hid, hfirst⟩ :=
    exists_firstWith?_unasked hreachable hc hrecord hunasked event values
  rw [← hname] at hfirst
  have hanswer : (h.planFor c event values).answer 0 first.toVariable p = .ok value := by
    have hget : ((h.planFor c event values).context 0).values.get? record.id = some value := hvalue
    rw [first.answer_toVariable harguments, CustomVariable.outcome, hid, hget]
  have hreplaced : (h.planFor c event values).Replaced 2 p value :=
    Plan.replaced_of_answer hescaped hfirst (Nat.succ_pos 1) hanswer
  constructor
  · intro htext
    rw [htext.eq_shown, hreplaced.eq_shown]
  · rintro rfl
    exact hreplaced

/-- A custom variable that no enabled step of a command asks for and that has no default there,
after any session in which values come from prompts alone.  If it has a value, an answer to a
prompt gave it in an earlier preparation, and its placeholder shows that value.  If it has none, or
the placeholder has arguments, every preparation of the command fails in the first pass, before
anybody is asked, with a message that names the variable. -/
theorem prepare_unasked {settings : Settings} {environment : Environment} {opened : Host}
    {actions : List Action} (hopen : ofSettings settings environment = .ok opened)
    (hindirect : ∀ action ∈ actions, action.IsIndirect)
    (hc : c ∈ (opened.performAll actions).commands)
    (hrecord : record ∈ (opened.performAll actions).registry.custom)
    (hunasked : ¬ c.AsksFor (opened.performAll actions).settings record.id)
    (hdefault : c.config.fallbacks.get? record.id = none)
    (hp : p ∈ Placeholder.scan c.text ∨ p ∈ Placeholder.scan c.config.title)
    (hescaped : p.escaped = false) (hname : p.name = record.placeholderName) :
    let h := opened.performAll actions
    (∀ value, h.values.get? record.id = some value →
        (∃ before action after, actions = before ++ action :: after ∧
          (opened.performAll before).Assigns action record.id value) ∧
        (p.arguments = [] → ∀ event values text,
          (h.planFor c event values).Replaced 2 p text ↔ text = value)) ∧
      (h.values.get? record.id = none ∨ p.arguments ≠ [] →
        ∀ {σ : Type} (channel : PromptChannel (StateM σ)) (s : σ) (event : Option Event),
          ∃ messages, (h.prepare channel c event).run s =
              ((.ok (.failed messages), h.rememberPreactions c.id), s) ∧
            Plan.unresolvedMessage p ∈ messages) := by
  intro h
  have hreachable : h.Reachable := (Reachable.opened hopen).performAll actions
  refine ⟨?_, ?_⟩
  · intro value hvalue
    refine ⟨?_, ?_⟩
    · -- the host starts without values, so an action has assigned this one
      rcases value_of_performAll hindirect hvalue with hstart | hassigned
      · rw [values_of_opened hopen] at hstart
        simp at hstart
      · exact hassigned
    · intro harguments event values text
      exact replaced_unasked hreachable hc hrecord hunasked hescaped hname harguments hvalue values
        text
  · intro hvain σ channel s event
    -- the placeholder is a mistake of the first pass, and mistakes end the preparation
    have hmessage := mem_mistakes_unasked hreachable hc hrecord hunasked hdefault
      hp hescaped hname hvain event
    exact ⟨_, prepare_of_mistakes channel s (List.ne_nil_of_mem hmessage), hmessage⟩

/-- A host of two commands with one text and one prompt: the first asks, and in the second the step
is switched off. -/
def sharedQuestion (text : String) : Host :=
  let settings : Settings := { Settings.oneQuestion text with
    commands := (Settings.oneQuestion text).commands ++ [{
      id := "show", command := { default := text }
      preactions := [{ enabled := false, kind := .prompt "p" }] }] }
  { oneQuestion text with settings, commands := settings.commands.map fun config => { config } }

theorem ofSettings_sharedQuestion (text : String) :
    ofSettings (sharedQuestion text).settings (sharedQuestion text).environment =
      .ok (sharedQuestion text) := by
  have hviolation : (sharedQuestion text).settings.violation? = none := rfl
  have hload : Registry.load (sharedQuestion text).settings.customVariables =
      .ok (sharedQuestion text).registry := by
    show Registry.load [⟨"id-1", "target", ""⟩] = .ok ⟨[⟨"id-1", "target", ""⟩]⟩
    decide +kernel
  rw [ofSettings, Settings.validate, hviolation, hload]
  rfl

theorem not_asksFor_of_disabled {settings : Settings} {id : VariableId}
    (hdisabled : ∀ step ∈ c.config.preactions, step.enabled = false) :
    ¬ c.AsksFor settings id := by
  rintro ⟨step, hstep, henabled, -⟩
  rw [hdisabled step hstep] at henabled
  simp at henabled

/-- Before the first command is prepared the second fails; after it, the second has the answer given
to the first. -/
theorem prepare_unasked_shared :
    let opened := sharedQuestion "echo \x7b\x7b_target\x7d\x7d"
    let ask : Action := .prepare "c" none [.ok (some ["a"])]
    let later := opened.performAll [ask]
    let record : CustomVariable := ⟨"id-1", "target", ""⟩
    let p : Placeholder := ⟨false, "_target", [], ⟨5, 16⟩, braced "_target"⟩
    ofSettings opened.settings opened.environment = .ok opened ∧ ask.IsIndirect ∧
      p.name = record.placeholderName ∧
      (∃ c ∈ opened.commands, c.id = "show" ∧ record ∈ opened.registry.custom ∧
        ¬ c.AsksFor opened.settings record.id ∧ c.config.fallbacks.get? record.id = none ∧
        p ∈ Placeholder.scan c.text ∧
        ∀ (channel : PromptChannel (StateM Script)) (s : Script) (event : Option Event),
          ∃ messages, (opened.prepare channel c event).run s =
              ((.ok (.failed messages), opened.rememberPreactions c.id), s) ∧
            "\x7b\x7b_target\x7d\x7d has not been assigned a value" ∈ messages) ∧
      ∃ c ∈ later.commands, c.id = "show" ∧ record ∈ later.registry.custom ∧
        ¬ c.AsksFor later.settings record.id ∧ c.config.fallbacks.get? record.id = none ∧
        p ∈ Placeholder.scan c.text ∧ later.values.get? record.id = some "a" ∧
        opened.Assigns ask record.id "a" ∧
        ∀ event values text, (later.planFor c event values).Replaced 2 p text ↔ text = "a" := by
  intro opened ask later record p
  have hopen : ofSettings opened.settings opened.environment = .ok opened :=
    ofSettings_sharedQuestion _
  have hindirect : ∀ action ∈ [ask], action.IsIndirect := by
    intro action haction
    rw [List.mem_singleton.1 haction]
    trivial
  refine ⟨hopen, trivial, by decide, ?_, ?_⟩
  · have hshow : ∃ c ∈ opened.commands, c.id = "show" ∧
        (∀ step ∈ c.config.preactions, step.enabled = false) ∧
        c.config.fallbacks.get? record.id = none ∧ p ∈ Placeholder.scan c.text := by
      decide +kernel
    obtain ⟨c, hc, hid, hdisabled, hdefault, hp⟩ := hshow
    have hrecord : record ∈ opened.registry.custom := List.mem_singleton_self _
    have hunasked : ¬ c.AsksFor opened.settings record.id := not_asksFor_of_disabled hdisabled
    have hnone : ∀ action ∈ ([] : List Action), action.IsIndirect := by simp
    obtain ⟨-, hfails⟩ := prepare_unasked hopen hnone hc hrecord hunasked hdefault (.inl hp) rfl
      (by decide)
    exact ⟨c, hc, hid, hrecord, hunasked, hdefault, hp, hfails (.inl (by decide +kernel))⟩
  · have hshow : ∃ c ∈ later.commands, c.id = "show" ∧
        (∀ step ∈ c.config.preactions, step.enabled = false) ∧
        c.config.fallbacks.get? record.id = none ∧ p ∈ Placeholder.scan c.text := by
      decide +kernel
    obtain ⟨c, hc, hid, hdisabled, hdefault, hp⟩ := hshow
    have hrecord : record ∈ later.registry.custom := by decide +kernel
    have hunasked : ¬ c.AsksFor later.settings record.id := not_asksFor_of_disabled hdisabled
    have hvalue : later.values.get? record.id = some "a" := by decide +kernel
    obtain ⟨hvalued, -⟩ := prepare_unasked hopen hindirect hc hrecord hunasked hdefault (.inl hp)
      rfl (by decide)
    obtain ⟨⟨before, action, after, hsplit, hassigns⟩, hreplaced⟩ := hvalued "a" hvalue
    -- there is one action only
    have hbefore : before = [] := by
      cases before with
      | nil => rfl
      | cons first rest => simp at hsplit
    subst hbefore
    obtain ⟨rfl, -⟩ := List.cons.inj hsplit
    exact ⟨c, hc, hid, hrecord, hunasked, hdefault, hp, hvalue, hassigns, hreplaced rfl⟩

/-- A prompt whose step is switched off in one command and that was answered for another: although
the first has no other step and no defaults, it is ready. -/
theorem ready_answered_elsewhere :
    let opened := sharedQuestion "echo \x7b\x7b_target\x7d\x7d"
    let h := opened.perform (.prepare "c" none [.ok (some ["a"])])
    ofSettings opened.settings opened.environment = .ok opened ∧
      h.registry.custom = [⟨"id-1", "target", ""⟩] ∧
      h.settings.prompts.map (fun p => (p.id, p.fields.map (·.target))) = [("p", ["id-1"])] ∧
      ∃ c ∈ h.commands, c.config.preactions = [{ enabled := false, kind := .prompt "p" }] ∧
        c.config.fallbacks.entries = [] ∧
        ⟨false, "_target", [], ⟨5, 16⟩, braced "_target"⟩ ∈ Placeholder.scan c.text ∧
        ((h.prepare Script.channel c none).run {}).1.1 =
          .ok (.ready ⟨"show", "/bin/sh", "echo a", "", false, []⟩) := by
  intro opened h
  exact ⟨ofSettings_sharedQuestion _, by decide +kernel, by decide +kernel, by decide +kernel⟩

end Host

end CommandTemplates
