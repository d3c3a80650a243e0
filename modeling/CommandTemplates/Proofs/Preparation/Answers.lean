/-
Answers become values.

A prompt stores an answer under the id of a variable, and the second pass asks for a
variable under its name.  In a session the two lead to the same record, so that a
variable that depends on a preaction has the last answer given for it.

* `lastGiven` — the answer that counts, if several are given;
* `Host.supplied_of_accepted` — the variables of the second pass have their answers;
* `Host.prepare_supplies_answers` — so the second pass puts the answers in, needs no
  default, and can only complain about arguments that no such variable takes.
-/
import CommandTemplates.Proofs.Host.Partition

namespace CommandTemplates

/-- The last answer that some exchanges give for a variable. -/
def lastGiven (exchanges : List Exchange) (id : VariableId) : Option String :=
  (((exchanges.flatMap (·.given)).filter fun a => a.1 = id).getLast?).map Prod.snd

theorem get?_store_given (values : ValueStore) (exchanges : List Exchange) (id : VariableId) :
    (PromptPreaction.store values (exchanges.flatMap (·.given))).get? id =
      (lastGiven exchanges id).or (values.get? id) :=
  PromptPreaction.get?_store values _ id

/-- An accepted prompt has an answer for each of its fields. -/
theorem PromptPreaction.Accepts.exists_given {p : PromptPreaction} {e : Exchange}
    {field : PromptField} (h : p.Accepts e) (hfield : field ∈ e.prompt.fields) :
    ∃ answer, (field.target, answer) ∈ e.given := by
  obtain ⟨-, answers, hreply, -⟩ := h
  obtain ⟨i, hi, rfl⟩ := List.getElem_of_mem hfield
  refine ⟨answers[i]?.getD "", ?_⟩
  rw [Exchange.given, hreply]
  refine List.mem_map.2 ⟨(e.prompt.fields[i], answers[i]?.getD ""), ?_, rfl⟩
  exact List.mem_map.2 ⟨(e.prompt.fields[i], i), by simp [List.mem_zipIdx_iff_getElem?], rfl⟩

/-- A variable without parameters whose value is the last answer given for it. -/
structure Variable.Supplied (v : Variable) (exchanges : List Exchange) (ctx : Context)
    (answer : String) : Prop where
  parameters : v.parameters = []
  given : lastGiven exchanges v.identifier = some answer
  resolve : ∀ arguments, v.resolve arguments ctx = .ok answer

theorem Variable.Supplied.bind_nil {v : Variable} {exchanges : List Exchange} {ctx : Context}
    {answer : String} (hv : v.Supplied exchanges ctx answer) (name : String) :
    Arguments.bind name v.parameters [] = .ok .empty := by
  rw [hv.parameters]
  rfl

namespace Command

variable {c : Command} {settings : Settings} {registry : Registry} {id : VariableId}
  {exchanges : List Exchange}

/-- If all preactions are accepted, each variable asked for has an answer. -/
theorem exists_lastGiven (hprompts : (settings.prompts.map (·.id)).Nodup)
    (hasks : c.AsksFor settings id)
    (hall : List.Forall₂ PromptPreaction.Accepts
      (buildPreactions settings registry c.config.preactions) exchanges) :
    ∃ answer, lastGiven exchanges id = some answer := by
  obtain ⟨p, hp, prompt, hprompt, -, field, hfield, rfl⟩ :=
    hasks.exists_preaction hprompts registry
  obtain ⟨i, hi, rfl⟩ := List.getElem_of_mem hp
  -- the exchange of the preaction has an answer for the field
  have hi' : i < exchanges.length := hall.length_eq ▸ hi
  have haccepts := hall.get hi hi'
  have hshown := haccepts.1
  rw [List.get_eq_getElem, hprompt, Option.some.injEq] at hshown
  subst hshown
  obtain ⟨answer, hanswer⟩ := haccepts.exists_given hfield
  have hgiven : (field.target, answer) ∈
      (exchanges.flatMap (·.given)).filter fun a => a.1 = field.target :=
    List.mem_filter.2 ⟨List.mem_flatMap.2 ⟨_, List.get_mem _ _, hanswer⟩, by simp⟩
  obtain ⟨last, hlast⟩ := Option.isSome_iff_exists.1
    (List.getLast?_isSome.2 (List.ne_nil_of_mem hgiven))
  exact ⟨last.2, by rw [lastGiven, hlast]; rfl⟩

end Command

namespace Plan

variable {plan : Plan} {p : Placeholder} {v : Variable} {exchanges : List Exchange}
  {answer : String}

/-- A placeholder without arguments becomes the answer, with or without a default for the
variable. -/
theorem replaced_of_supplied (hescaped : p.escaped = false) (harguments : p.arguments = [])
    (hfirst : firstWith? p.name plan.sets = some (1, v))
    (hv : v.Supplied exchanges plan.later answer) (text : String) :
    plan.Replaced 2 p text ↔ text = answer := by
  have hbind : Arguments.bind p.name v.parameters p.arguments = .ok .empty :=
    harguments ▸ hv.bind_nil p.name
  have hreplaced : plan.Replaced 2 p answer :=
    .value hescaped hfirst (Nat.lt_succ_self 1) hbind (hv.resolve _)
  -- a placeholder stands for one text only, so it is enough that it may stand for the answer
  constructor
  · intro htext
    rw [htext.eq_shown, hreplaced.eq_shown]
  · rintro rfl
    exact hreplaced

/-- The only message about such a variable is that it takes no arguments. -/
theorem failure?_of_supplied {message : String} (hescaped : p.escaped = false)
    (hfirst : firstWith? p.name plan.sets = some (1, v))
    (hv : v.Supplied exchanges plan.later answer) (hfailure : plan.failure? 1 p = some message) :
    p.arguments ≠ [] ∧
      message = misplaced p (ArgumentError.tooMany p.name 0 p.arguments.length).message := by
  rw [(settled?_of_answer hescaped hfirst (Nat.lt_succ_self 1)).2] at hfailure
  -- without arguments the answer is found, and then there is no message
  by_cases harguments : p.arguments = []
  · have hbind : Arguments.bind p.name v.parameters p.arguments = .ok .empty :=
      harguments ▸ hv.bind_nil p.name
    have hresolve : v.resolve .empty (plan.context 1) = .ok answer := hv.resolve .empty
    rw [answer_of_bind hbind, hresolve] at hfailure
    simp [Fallback.apply, Except.mapError] at hfailure
  · simp only [answer_of_surplus hv.parameters harguments, Option.some.injEq] at hfailure
    exact ⟨harguments, hfailure.symm⟩

/-- After the first pass a message is about a variable of the pass. -/
theorem exists_of_failure? {i : Nat} {message : String} (hi : i ≠ 0)
    (h : plan.failure? i p = some message) :
    p.escaped = false ∧ ∃ v, firstWith? p.name plan.sets = some (i, v) := by
  unfold failure? at h
  split at h
  · simp at h
  · next hescaped =>
    refine ⟨by simpa using hescaped, ?_⟩
    split at h
    · simp at h
    · next j v hfirst =>
      split at h
      · next hj => exact ⟨v, hj ▸ hfirst⟩
      · simp at h

end Plan

namespace Host

variable {σ : Type} {h : Host} {c : Command} {event : Option Event} {exchanges : List Exchange}

/-- After all preactions of a command of a session were accepted, each variable that depends on
them has the last answer given for it. -/
theorem supplied_of_accepted (hreachable : h.Reachable) (hc : c ∈ h.commands)
    (hall : List.Forall₂ PromptPreaction.Accepts (c.preactions h.settings h.registry) exchanges)
    {v : Variable} (hv : v ∈ (c.dependentVariables h.settings h.registry).members) {ctx : Context}
    (hvalues : ctx.values = PromptPreaction.store h.values (exchanges.flatMap (·.given))) :
    ∃ answer, v.Supplied exchanges ctx answer := by
  obtain ⟨hcurrent, hnames, hprompts⟩ := hreachable.coherent
  rw [(hcurrent c hc).preactions_eq] at hall
  -- the variable was found by its name; its record leads to the id that was asked for
  obtain ⟨id, hasks, record, hfind, rfl⟩ :=
    (Command.mem_dependentVariables (hcurrent c hc) hnames hprompts).1 hv
  obtain ⟨answer, hanswer⟩ := Command.exists_lastGiven hprompts hasks hall
  have hid : record.id = id := by simpa using List.find?_some hfind
  subst hid
  have hvalue : ctx.values.get? record.id = some answer := by
    rw [hvalues, get?_store_given, hanswer, Option.some_or]
  refine ⟨answer, rfl, hanswer, ?_⟩
  intro arguments
  simp [Variable.resolve, Variable.refusal?, Variable.eventRefusal?, CustomVariable.toVariable,
    hvalue]

/-- A variable that depends on a preaction belongs to the second pass. -/
theorem firstWith?_of_dependent {v : Variable} (event : Option Event) (values : ValueStore)
    (hv : v ∈ (c.dependentVariables h.settings h.registry).members) :
    firstWith? v.name (h.planFor c event values).sets = some (1, v) := by
  have hcontains : (c.dependentVariables h.settings h.registry).contains v.name = true :=
    VariableSet.contains_iff.2 (List.mem_map_of_mem hv)
  have hsnapshot : h.registry.snapshot.get? v.name = some v :=
    VariableSet.mem_members_iff.1 (Command.dependentVariables_sublist.subset hv)
  rw [planFor, Command.firstWith?_sets, hsnapshot, hcontains]
  rfl

/-- A message of the second pass is about a variable that depends on a preaction. -/
theorem exists_of_mem_mistakes {values : ValueStore} {message : String}
    (hmessage : message ∈ c.mistakes (h.planFor c event values) 1) :
    ∃ p, (p ∈ Placeholder.scan c.text ∨ p ∈ Placeholder.scan c.config.title) ∧
      p.escaped = false ∧ (h.planFor c event values).failure? 1 p = some message ∧
        ∃ v ∈ (c.dependentVariables h.settings h.registry).members, v.name = p.name := by
  obtain ⟨p, hp, hfailure⟩ := c.mem_mistakes_iff.1 hmessage
  obtain ⟨hescaped, v, hfirst⟩ := Plan.exists_of_failure? Nat.one_ne_zero hfailure
  obtain ⟨s, hs, hv⟩ := Plan.get?_of_firstWith? hfirst
  -- the second set is that of the dependent variables
  rw [← Option.some.inj hs] at hv
  have hname : v.name = p.name := by simpa using List.find?_some hv
  exact ⟨p, hp, hescaped, hfailure, v, List.mem_of_find?_eq_some hv, hname⟩

/-- If all preactions of a command of a session are accepted, the second pass has the last answer
given for each variable that depends on them, and puts it in for a placeholder without arguments
whatever default the variable has.  The preparation then fails only over arguments that no such
variable takes. -/
theorem prepare_supplies_answers (channel : PromptChannel (StateM σ)) (s : σ)
    (event : Option Event) (hreachable : h.Reachable) (hc : c ∈ h.commands) :
    ∃ outcome values exchanges s',
      (h.prepare channel.recorded c event).run (s, []) =
        ((.ok outcome, { h.rememberPreactions c.id with values }), s', exchanges) ∧
      (c.mistakes (h.planFor c event h.values) 0 = [] →
        List.Forall₂ PromptPreaction.Accepts (c.preactions h.settings h.registry) exchanges →
          let plan := h.planFor c event values
          let dependent := c.dependentVariables h.settings h.registry
          (∀ v ∈ dependent.members, ∃ answer, v.Supplied exchanges plan.later answer ∧
            ∀ p : Placeholder, p.escaped = false → p.name = v.name → p.arguments = [] →
              ∀ text, plan.Replaced 2 p text ↔ text = answer) ∧
          ∃ x y ok, (c.expansion h.settings h.registry).start plan.first = .ok (true, x) ∧
            x.finish plan.later = .ok (ok, y) ∧
            (∀ target ∈ c.templates, ∀ text,
              (y.result? target.1).bind (·.content) = some text →
                plan.Expands 2 target.2 text) ∧
            ((ok = true ∧ ∃ prepared, outcome = .ready prepared ∧
                (y.result? Command.textKey).bind (·.content) = some prepared.command ∧
                (y.result? Command.titleKey).bind (·.content) = some prepared.title) ∨
              (ok = false ∧ outcome = .failed y.errors ∧ ∀ message ∈ y.errors, ∃ p,
                (p ∈ Placeholder.scan c.text ∨ p ∈ Placeholder.scan c.config.title) ∧
                p.escaped = false ∧ dependent.contains p.name = true ∧ p.arguments ≠ [] ∧
                message = Plan.misplaced p
                  (ArgumentError.tooMany p.name 0 p.arguments.length).message))) := by
  obtain ⟨outcome, values, exchanges, s', hrun, hprepares⟩ :=
    prepare_recorded channel s [] h c event
  refine ⟨outcome, values, exchanges, s', hrun, ?_⟩
  intro hnone hall plan dependent
  -- all preactions were accepted, so the values are those stored for the answers, and what
  -- is left is to run the second pass
  obtain ⟨hvalues, hfailed, hready⟩ := hprepares.of_accepted hnone hall
  have hsupplied : ∀ v ∈ dependent.members, ∃ answer, v.Supplied exchanges plan.later answer :=
    fun v hv => supplied_of_accepted hreachable hc hall hv hvalues
  refine ⟨?_, ?_⟩
  · -- the answer stands in the second set, under the name that the placeholder has
    intro v hv
    obtain ⟨answer, hanswer⟩ := hsupplied v hv
    refine ⟨answer, hanswer, ?_⟩
    intro p hescaped hname harguments text
    have hfirst : firstWith? p.name plan.sets = some (1, v) :=
      hname ▸ firstWith?_of_dependent event values hv
    exact Plan.replaced_of_supplied hescaped harguments hfirst hanswer text
  · -- the two calls on the expansion; what they report is what the preparation comes to
    obtain ⟨x, y, hstart, hfinish, hreport, herrors⟩ := exists_passes values hnone
    refine ⟨x, y, _, hstart, hfinish, ?_, ?_⟩
    · intro target htarget text htext
      refine hreport.expands_of_content ?_ htext
      simp only [Command.templates, List.mem_cons, List.not_mem_nil, or_false] at htarget
      rcases htarget with rfl | rfl
      · exact c.get?_templates_text
      · exact c.get?_templates_title
    · rw [herrors]
      by_cases hsecond : c.mistakes (h.planFor c event values) 1 = []
      · -- both runs of the calls are the same
        obtain ⟨x', y', prepared, hstart', hfinish', houtcome, htext, htitle⟩ := hready hsecond
        rw [hstart, Except.ok.injEq, Prod.mk.injEq] at hstart'
        obtain ⟨-, rfl⟩ := hstart'
        rw [hfinish, Except.ok.injEq, Prod.mk.injEq] at hfinish'
        obtain ⟨hok, rfl⟩ := hfinish'
        exact .inl ⟨hok, prepared, houtcome, htext, htitle⟩
      · refine .inr ⟨decide_eq_false hsecond, hfailed hsecond, ?_⟩
        intro message hmessage
        -- a message of the second pass is about a supplied variable, which lacks no value
        obtain ⟨p, hp, hescaped, hfailure, v, hv, hname⟩ := exists_of_mem_mistakes hmessage
        obtain ⟨answer, hanswer⟩ := hsupplied v hv
        obtain ⟨harguments, rfl⟩ := Plan.failure?_of_supplied hescaped
          (hname ▸ firstWith?_of_dependent event values hv) hanswer hfailure
        have hcontains : dependent.contains p.name = true :=
          VariableSet.contains_iff.2 (hname ▸ List.mem_map_of_mem hv)
        exact ⟨p, hp, hescaped, hcontains, harguments, rfl⟩

theorem prepare_supplies_answers_oneQuestion :
    let h := oneQuestion "echo \x7b\x7b_target\x7d\x7d"
    let reply : PromptReply := .ok (some ["a", "b"])
    h.Reachable ∧ ∃ c ∈ h.commands, ∃ outcome values exchanges s',
      (h.prepare Script.channel.recorded c none).run ({ replies := [reply] }, []) =
        ((.ok outcome, { h.rememberPreactions c.id with values }), s', exchanges) ∧
      c.mistakes (h.planFor c none h.values) 0 = [] ∧
      List.Forall₂ PromptPreaction.Accepts (c.preactions h.settings h.registry) exchanges ∧
      (∀ v ∈ (c.dependentVariables h.settings h.registry).members, ∃ answer,
        v.Supplied exchanges (h.planFor c none values).later answer) ∧
      lastGiven exchanges "id-1" = some "a" ∧
      ∃ prepared, outcome = .ready prepared ∧ prepared.command = "echo a" := by
  intro h reply
  have hreachable : h.Reachable := reachable_oneQuestion _
  obtain ⟨outcome, values, exchanges, s', hrun, hanswered⟩ :=
    prepare_supplies_answers Script.channel { replies := [reply] } none hreachable
      (List.getElem_mem (by decide : 0 < h.commands.length))
  have hexchanges : exchanges = [⟨h.settings.prompts[0], reply⟩] := by
    have hasked : ((h.prepare Script.channel.recorded h.commands[0] none).run
        ({ replies := [reply] }, [])).2.2 = [⟨h.settings.prompts[0], reply⟩] := by
      decide +kernel
    rwa [hrun] at hasked
  let prepared : PreparedCommand := ⟨"c", "/bin/sh", "echo a", "", false, []⟩
  have hready : outcome = .ready prepared := by
    have houtcome : ((h.prepare Script.channel.recorded h.commands[0] none).run
        ({ replies := [reply] }, [])).1.1 = .ok (.ready prepared) := by
      decide +kernel
    rw [hrun] at houtcome
    exact Except.ok.inj houtcome
  have hnone : h.commands[0].mistakes (h.planFor h.commands[0] none h.values) 0 = [] := by
    decide +kernel
  have hall : List.Forall₂ PromptPreaction.Accepts
      (h.commands[0].preactions h.settings h.registry) exchanges := by
    rw [hexchanges]
    exact .cons ⟨rfl, _, rfl, by decide⟩ .nil
  obtain ⟨hsupplied, -⟩ := hanswered hnone hall
  refine ⟨hreachable, _, List.getElem_mem _, outcome, values, exchanges, s', hrun, hnone, hall,
    ?_, ?_, _, hready, rfl⟩
  · intro v hv
    obtain ⟨answer, hanswer, -⟩ := hsupplied v hv
    exact ⟨answer, hanswer⟩
  · rw [hexchanges]
    decide +kernel

end Host

end CommandTemplates
