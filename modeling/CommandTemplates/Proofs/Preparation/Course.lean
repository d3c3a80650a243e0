/-
How a preparation goes.

The text and the title of a command are expanded by a plan (`Host.planFor`): the first
pass has the variables that need no preaction and the values of before, the second pass
those of the preactions and the values that the preactions leave.

`Host.Prepares` lists the courses a preparation can take, with what becomes of it, the
values after it and the exchanges with the user.

* `Command.mistakes` — the messages that a pass leaves for the text and the title;
* `Host.prepare_recorded` — every run of a preparation takes one of the courses;
* `Host.prepare_of_recorded` — writing the exchanges down changes nothing else.
-/
import CommandTemplates.Proofs.Prompt.Exchange
import CommandTemplates.Proofs.Template.Calls

namespace CommandTemplates

/-- What a pass leaves for a template is decided by the context of that pass. -/
theorem Plan.errorsIn_zero_congr {plan plan' : Plan} (hsets : plan.sets = plan'.sets)
    (hfallbacks : plan.fallbacks = plan'.fallbacks) (hfirst : plan.first = plan'.first)
    (template : String) : plan.errorsIn 0 template = plan'.errorsIn 0 template := by
  have hanswer : ∀ v p, plan.answer 0 v p = plan'.answer 0 v p := by
    intro v p
    simp only [answer, context, if_true, hfallbacks, hfirst]
  have hfailure : plan.failure? 0 = plan'.failure? 0 := by
    funext p
    simp only [failure?, hsets, hanswer]
  rw [errorsIn, errorsIn, hfailure]

namespace Command

variable (c : Command) (settings : Settings) (registry : Registry)

/-- The plan of a command's expansion. -/
def plan (first later : Context) : Plan where
  sets := [c.independentVariables settings registry, c.dependentVariables settings registry]
  fallbacks := c.config.fallbacks
  first := first
  later := later

theorem get?_dependentVariables (name : String) :
    (c.dependentVariables settings registry).get? name =
      if (c.dependentVariables settings registry).contains name then
        registry.snapshot.get? name else none := by
  split
  · next hcontains =>
    rw [← VariableSet.get?_isSome] at hcontains
    rw [dependentVariables, dependentIn, VariableSet.get?_filter _ _ name] at hcontains ⊢
    split at hcontains
    · next hkeep => rw [if_pos hkeep]
    · simp at hcontains
  · next hcontains =>
    rwa [← VariableSet.get?_isSome, Option.not_isSome_iff_eq_none] at hcontains

/-- A name belongs to the second pass if its variable depends on a preaction, and to the first
otherwise. -/
theorem firstWith?_sets (first later : Context) (name : String) :
    firstWith? name (c.plan settings registry first later).sets =
      (registry.snapshot.get? name).map fun v =>
        (if (c.dependentVariables settings registry).contains name then 1 else 0, v) := by
  simp only [plan, firstWith?, independentVariables, VariableSet.get?_subtract,
    get?_dependentVariables]
  cases (c.dependentVariables settings registry).contains name with
  | true => cases registry.snapshot.get? name <;> rfl
  | false => cases registry.snapshot.get? name <;> rfl

/-- The templates of a command with their keys. -/
def templates : List (String × String) := [(textKey, c.text), (titleKey, c.config.title)]

/-- The messages that pass `i` leaves for the text and for the title. -/
def mistakes (plan : Plan) (i : Nat) : List String :=
  [c.text, c.config.title].flatMap fun template => (plan.errorsIn i template).eraseDups

theorem expansion_eq (first later : Context) :
    c.expansion settings registry =
      (c.plan settings registry first later).expansion c.templates := rfl

theorem values_templates : (Dictionary.ofList c.templates).values = [c.text, c.config.title] := by
  simp [templates, Dictionary.ofList, Dictionary.insert, Dictionary.insertEntry,
    Dictionary.empty, Dictionary.values, textKey, titleKey]

theorem get?_templates_text : (Dictionary.ofList c.templates).get? textKey = some c.text := by
  simp [templates, Dictionary.ofList, Dictionary.get?_insert, textKey, titleKey]

theorem get?_templates_title :
    (Dictionary.ofList c.templates).get? titleKey = some c.config.title := by
  simp [templates, Dictionary.ofList, Dictionary.get?_insert]

/-- The templates of a command have keys of their own. -/
theorem get?_of_mem_templates {target : String × String} (htarget : target ∈ c.templates) :
    (Dictionary.ofList c.templates).get? target.1 = some target.2 := by
  simp only [templates, List.mem_cons, List.not_mem_nil, or_false] at htarget
  rcases htarget with rfl | rfl
  · exact c.get?_templates_text
  · exact c.get?_templates_title

theorem messages_one (plan : Plan) : plan.messages c.templates 1 = c.mistakes plan 0 := by
  simp only [Plan.messages, values_templates, mistakes, Plan.errorsAfter, if_true]

theorem mistakes_eq_nil {plan : Plan} {i : Nat} :
    c.mistakes plan i = [] ↔
      plan.errorsIn i c.text = [] ∧ plan.errorsIn i c.config.title = [] := by
  simp [mistakes, Plan.eraseDups_eq_nil]

/-- A pass leaves the messages about the placeholders of both templates. -/
theorem mem_mistakes_iff {plan : Plan} {i : Nat} {message : String} :
    message ∈ c.mistakes plan i ↔
      ∃ p, (p ∈ Placeholder.scan c.text ∨ p ∈ Placeholder.scan c.config.title) ∧
        plan.failure? i p = some message := by
  simp only [mistakes, Plan.errorsIn, List.mem_flatMap, List.mem_eraseDups, List.mem_filterMap,
    List.mem_cons, List.not_mem_nil, or_false]
  constructor
  · rintro ⟨template, rfl | rfl, p, hp, hfailure⟩
    · exact ⟨p, .inl hp, hfailure⟩
    · exact ⟨p, .inr hp, hfailure⟩
  · rintro ⟨p, hp | hp, hfailure⟩
    · exact ⟨c.text, .inl rfl, p, hp, hfailure⟩
    · exact ⟨c.config.title, .inr rfl, p, hp, hfailure⟩

theorem messages_two {plan : Plan} (h : c.mistakes plan 0 = []) :
    plan.messages c.templates 2 = c.mistakes plan 1 := by
  obtain ⟨htext, htitle⟩ := c.mistakes_eq_nil.1 h
  simp [Plan.messages, values_templates, mistakes, Plan.errorsAfter, htext, htitle]

/-- If neither pass leaves a message, neither template has one. -/
theorem errorsAfter_two {plan : Plan} (hfirst : c.mistakes plan 0 = [])
    (hsecond : c.mistakes plan 1 = []) :
    plan.errorsAfter c.text 2 = [] ∧ plan.errorsAfter c.config.title 2 = [] := by
  obtain ⟨htext, htitle⟩ := c.mistakes_eq_nil.1 hfirst
  obtain ⟨htext', htitle'⟩ := c.mistakes_eq_nil.1 hsecond
  simp [Plan.errorsAfter, htext, htitle, htext', htitle']

end Command

namespace Host

/-- The plan of a command's expansion if `values` are the values after its preactions. -/
def planFor (h : Host) (c : Command) (event : Option Event) (values : ValueStore) : Plan :=
  c.plan h.settings h.registry (h.context event) ({ h with values }.context event)

/-- The courses that a preparation can take: what becomes of it, the values after it, and the
exchanges with the user. -/
inductive Prepares (h : Host) (c : Command) (event : Option Event) :
    Preparation → ValueStore → List Exchange → Prop
  /-- The first pass leaves a message: nobody is asked, and no value changes. -/
  | mistaken :
    c.mistakes (h.planFor c event h.values) 0 ≠ [] →
    Prepares h c event (.failed (c.mistakes (h.planFor c event h.values) 0)) h.values []
  /-- A preaction is not accepted: nobody is asked further, and what was answered before it is
  stored. -/
  | ended {exchanges accepted : List Exchange} {outcome : Preparation} :
    c.mistakes (h.planFor c event h.values) 0 = [] →
    EndsEarly (c.preactions h.settings h.registry) exchanges accepted outcome →
    Prepares h c event outcome
      (PromptPreaction.store h.values (accepted.flatMap (·.given))) exchanges
  /-- All preactions are accepted, but the second pass leaves a message. -/
  | failed {accepted : List Exchange} {values : ValueStore} :
    c.mistakes (h.planFor c event h.values) 0 = [] →
    List.Forall₂ PromptPreaction.Accepts (c.preactions h.settings h.registry) accepted →
    values = PromptPreaction.store h.values (accepted.flatMap (·.given)) →
    c.mistakes (h.planFor c event values) 1 ≠ [] →
    Prepares h c event (.failed (c.mistakes (h.planFor c event values) 1)) values accepted
  /-- All preactions are accepted and no pass leaves a message: the finished expansion shows both
  templates expanded. -/
  | ready {accepted : List Exchange} {values : ValueStore} {x y : Expansion}
      {text title : String} :
    c.mistakes (h.planFor c event h.values) 0 = [] →
    List.Forall₂ PromptPreaction.Accepts (c.preactions h.settings h.registry) accepted →
    values = PromptPreaction.store h.values (accepted.flatMap (·.given)) →
    c.mistakes (h.planFor c event values) 1 = [] →
    (c.expansion h.settings h.registry).start (h.context event) = .ok (true, x) →
    x.finish ({ h with values }.context event) = .ok (true, y) →
    (y.result? Command.textKey).bind (·.content) = some text →
    (y.result? Command.titleKey).bind (·.content) = some title →
    (h.planFor c event values).Expands 2 c.text text →
    (h.planFor c event values).Expands 2 c.config.title title →
    Prepares h c event
      (.ready {
        id := c.id, shell := c.shell h.settings, command := text, title
        confirmExecution := c.config.confirmExecution
        ignoreErrorCodes := c.config.ignoreErrorCodes }) values accepted

variable {σ : Type} {h : Host} {c : Command} {event : Option Event}

theorem mistakes_zero_planFor (h : Host) (c : Command) (event : Option Event)
    (values values' : ValueStore) :
    c.mistakes (h.planFor c event values) 0 = c.mistakes (h.planFor c event values') 0 := by
  have herrors : (h.planFor c event values).errorsIn 0 =
      (h.planFor c event values').errorsIn 0 := by
    funext template
    exact Plan.errorsIn_zero_congr rfl rfl rfl template
  rw [Command.mistakes, Command.mistakes, herrors]

/-- The first call of the expansion works; it answers whether the first pass leaves no message. -/
theorem exists_start (h : Host) (c : Command) (event : Option Event) (values : ValueStore) :
    ∃ x, (c.expansion h.settings h.registry).start (h.context event) =
        .ok (decide (c.mistakes (h.planFor c event h.values) 0 = []), x) ∧
      x.phase = .passPending 1 ∧ (h.planFor c event values).Report c.templates 1 x := by
  obtain ⟨x, hstart, hphase, hreport⟩ := Plan.exists_start_messages
    (h.planFor c event values) c.templates (List.cons_ne_nil _ _)
  rw [c.messages_one, h.mistakes_zero_planFor c event values h.values] at hstart
  refine ⟨x, ?_, hphase, hreport⟩
  rw [c.expansion_eq h.settings h.registry (h.context event) ({ h with values }.context event)]
  exact hstart

/-- If the first pass leaves no message, the second call works too; it answers whether the second
pass leaves none. -/
theorem exists_passes (values : ValueStore)
    (hnone : c.mistakes (h.planFor c event h.values) 0 = []) :
    ∃ x y, (c.expansion h.settings h.registry).start (h.context event) = .ok (true, x) ∧
      x.finish ({ h with values }.context event) =
        .ok (decide (c.mistakes (h.planFor c event values) 1 = []), y) ∧
      (h.planFor c event values).Report c.templates 2 y ∧
      y.errors = c.mistakes (h.planFor c event values) 1 := by
  obtain ⟨x, hstart, hphase, hreport⟩ := h.exists_start c event values
  obtain ⟨y, hfinish, hlast⟩ := hreport.exists_finish hphase (List.cons_ne_nil _ _)
  have hmessages : (h.planFor c event values).messages c.templates 2 =
      c.mistakes (h.planFor c event values) 1 := by
    -- the values after the preactions make no difference to the first pass
    refine c.messages_two ?_
    rw [h.mistakes_zero_planFor c event values h.values, hnone]
  rw [decide_eq_true hnone] at hstart
  replace hlast : (h.planFor c event values).Report c.templates 2 y := hlast
  replace hfinish : x.finish ({ h with values }.context event) =
      .ok (decide ((h.planFor c event values).messages c.templates 2 = []), y) := hfinish
  rw [hmessages] at hfinish
  exact ⟨x, y, hstart, hfinish, hlast, hlast.errors_eq.trans hmessages⟩

/-- After the preactions, the second call decides between a ready command and the messages of the
second pass. -/
theorem exists_finish {values : ValueStore} {accepted : List Exchange} {x : Expansion}
    (hnone : c.mistakes (h.planFor c event h.values) 0 = [])
    (haccepted : List.Forall₂ PromptPreaction.Accepts (c.preactions h.settings h.registry)
      accepted)
    (hvalues : values = PromptPreaction.store h.values (accepted.flatMap (·.given)))
    (hstart : (c.expansion h.settings h.registry).start (h.context event) = .ok (true, x)) :
    ∃ ok y, x.finish ({ h with values }.context event) = .ok (ok, y) ∧
      (ok = false → h.Prepares c event (.failed y.errors) values accepted) ∧
      (ok = true → h.Prepares c event (.ready (c.prepared h.settings y)) values accepted) := by
  obtain ⟨x', y, hstart', hfinish, hreport, herrors⟩ := exists_passes values hnone
  rw [hstart, Except.ok.injEq, Prod.mk.injEq] at hstart'
  -- the first call has one result, so this is the expansion that goes on
  obtain ⟨-, rfl⟩ := hstart'
  refine ⟨_, y, hfinish, ?_, ?_⟩
  · intro hfailed
    rw [herrors]
    exact .failed hnone haccepted hvalues (of_decide_eq_false hfailed)
  · intro hok
    have hsecond := of_decide_eq_true hok
    rw [decide_eq_true hsecond] at hfinish
    have hnone' : c.mistakes (h.planFor c event values) 0 = [] := by
      rw [h.mistakes_zero_planFor c event values h.values, hnone]
    obtain ⟨htext, htitle⟩ := c.errorsAfter_two hnone' hsecond
    have hcontent := hreport.content c.get?_templates_text htext
    have hcontent' := hreport.content c.get?_templates_title htitle
    have hprepared := Prepares.ready hnone haccepted hvalues hsecond hstart hfinish hcontent
      hcontent' (Plan.expands_shown htext) (Plan.expands_shown htitle)
    simpa only [Command.prepared, hcontent, hcontent', Option.getD_some] using hprepared

section Courses

variable {outcome : Preparation} {values : ValueStore} {exchanges : List Exchange}

/-- A message of the first pass ends the preparation before anything else is done. -/
theorem Prepares.of_mistaken (hprepares : h.Prepares c event outcome values exchanges)
    (hfirst : c.mistakes (h.planFor c event h.values) 0 ≠ []) :
    outcome = .failed (c.mistakes (h.planFor c event h.values) 0) ∧ values = h.values ∧
      exchanges = [] := by
  cases hprepares with
  | mistaken => exact ⟨rfl, rfl, rfl⟩
  | ended hnone => exact absurd hnone hfirst
  | failed hnone => exact absurd hnone hfirst
  | ready hnone => exact absurd hnone hfirst

/-- A command is ready only if the second pass leaves no message. -/
theorem Prepares.mistakes_of_ready {prepared : PreparedCommand}
    (hprepares : h.Prepares c event (.ready prepared) values exchanges) :
    c.mistakes (h.planFor c event values) 1 = [] := by
  cases hprepares with
  | ended _ hended => exact absurd rfl (hended.ne_ready prepared)
  | ready _ _ _ hsecond => exact hsecond

/-- If all preactions are accepted, all that was answered is stored, and the second pass decides
between its messages and the texts that it shows. -/
theorem Prepares.of_accepted (hprepares : h.Prepares c event outcome values exchanges)
    (hnone : c.mistakes (h.planFor c event h.values) 0 = [])
    (hall : List.Forall₂ PromptPreaction.Accepts (c.preactions h.settings h.registry) exchanges) :
    values = PromptPreaction.store h.values (exchanges.flatMap (·.given)) ∧
      (c.mistakes (h.planFor c event values) 1 ≠ [] →
        outcome = .failed (c.mistakes (h.planFor c event values) 1)) ∧
      (c.mistakes (h.planFor c event values) 1 = [] → ∃ x y prepared,
        (c.expansion h.settings h.registry).start (h.context event) = .ok (true, x) ∧
          x.finish ({ h with values }.context event) = .ok (true, y) ∧
          outcome = .ready prepared ∧
          (y.result? Command.textKey).bind (·.content) = some prepared.command ∧
          (y.result? Command.titleKey).bind (·.content) = some prepared.title) := by
  cases hprepares with
  | mistaken hfirst => exact absurd hnone hfirst
  | ended _ hended => exact absurd hall hended.not_accepted
  | failed _ _ hvalues hsecond => exact ⟨hvalues, fun _ => rfl, fun h => absurd h hsecond⟩
  | @ready _ _ x y _ _ _ _ hvalues hsecond hstart hfinish htext htitle =>
    exact ⟨hvalues, absurd hsecond, fun _ => ⟨x, y, _, hstart, hfinish, rfl, htext, htitle⟩⟩

end Courses

/-! ### The run of a preparation -/

/-- What becomes of a preparation once its preactions are done: what stopped them, or the answer of
the second call. -/
def conclude (h : Host) (c : Command) (event : Option Event) (x : Expansion)
    (values : ValueStore) : Option Preparation → Except OrderError Preparation
  | some outcome => .ok outcome
  | none =>
    match x.finish ({ h with values }.context event) with
    | .error e => .error e
    | .ok (false, y) => .ok (.failed y.errors)
    | .ok (true, y) => .ok (.ready (c.prepared h.settings y))

theorem prepare_of_mistaken (channel : PromptChannel (StateM σ)) (s : σ) {x : Expansion}
    (hstart : (c.expansion h.settings h.registry).start (h.context event) = .ok (false, x)) :
    h.prepare channel c event s = ((.ok (.failed x.errors), h.rememberPreactions c.id), s) := by
  replace hstart : (c.expansion (h.rememberPreactions c.id).settings
      (h.rememberPreactions c.id).registry).start ((h.rememberPreactions c.id).context event) =
      .ok (false, x) := hstart
  simp only [prepare, hstart]
  rfl

theorem prepare_of_start (channel : PromptChannel (StateM σ)) (s : σ) {x : Expansion}
    (hstart : (c.expansion h.settings h.registry).start (h.context event) = .ok (true, x)) :
    h.prepare channel c event s =
      let run := runPreactions channel (c.preactions h.settings h.registry) h.values s
      ((h.conclude c event x run.1.2 run.1.1,
        { h.rememberPreactions c.id with values := run.1.2 }), run.2) := by
  replace hstart : (c.expansion (h.rememberPreactions c.id).settings
      (h.rememberPreactions c.id).registry).start ((h.rememberPreactions c.id).context event) =
      .ok (true, x) := hstart
  have hvalues : (h.rememberPreactions c.id).values = h.values := rfl
  simp only [prepare, hstart, bind, StateT.bind, hvalues]
  rcases runPreactions channel (c.preactions h.settings h.registry) h.values s with
    ⟨⟨stopped, values⟩, s'⟩
  cases stopped with
  | some outcome => rfl
  | none =>
    have hcontext : ({ h.rememberPreactions c.id with values } : Host).context event =
        ({ h with values } : Host).context event := rfl
    simp only [conclude, hcontext]
    generalize x.finish (Host.context _ event) = answer
    rcases answer with e | ⟨ok, y⟩
    · rfl
    · cases ok <;> rfl

/-- If the first pass leaves a message, its messages are the outcome, and nobody is asked. -/
theorem prepare_of_mistakes (channel : PromptChannel (StateM σ)) (s : σ)
    (hfirst : c.mistakes (h.planFor c event h.values) 0 ≠ []) :
    h.prepare channel c event s =
      ((.ok (.failed (c.mistakes (h.planFor c event h.values) 0)), h.rememberPreactions c.id),
        s) := by
  obtain ⟨x, hstart, -, hreport⟩ := h.exists_start c event h.values
  rw [decide_eq_false hfirst] at hstart
  rw [prepare_of_mistaken _ _ hstart, hreport.errors_eq, c.messages_one]

/-- Every preparation takes one of the courses.  It changes the values only, and the host remembers
the preactions of the command. -/
theorem prepare_recorded (channel : PromptChannel (StateM σ)) (s : σ) (log : List Exchange)
    (h : Host) (c : Command) (event : Option Event) :
    ∃ outcome values exchanges s',
      h.prepare channel.recorded c event (s, log) =
        ((.ok outcome, { h.rememberPreactions c.id with values }), s', log ++ exchanges) ∧
      h.Prepares c event outcome values exchanges := by
  -- the first pass decides whether any preaction runs
  by_cases hnone : c.mistakes (h.planFor c event h.values) 0 = []
  · obtain ⟨x, hstart, -, -⟩ := h.exists_start c event h.values
    rw [decide_eq_true hnone] at hstart
    obtain ⟨stopped, exchanges, accepted, s', hrun, hstopped⟩ :=
      runPreactions_recorded channel (c.preactions h.settings h.registry) h.values s log
    rw [prepare_of_start _ _ hstart, hrun]
    cases stopped with
    | some outcome => exact ⟨outcome, _, exchanges, s', rfl, .ended hnone hstopped⟩
    | none =>
      obtain ⟨rfl, haccepted⟩ := hstopped
      obtain ⟨ok, y, hfinish, hfailed, hready⟩ := exists_finish hnone haccepted rfl hstart
      simp only [conclude, hfinish]
      cases ok with
      | false => exact ⟨_, _, exchanges, s', rfl, hfailed rfl⟩
      | true => exact ⟨_, _, exchanges, s', rfl, hready rfl⟩
  · rw [prepare_of_mistakes _ _ hnone]
    exact ⟨_, h.values, [], s, by rw [List.append_nil]; rfl, .mistaken hnone⟩

/-- Writing the exchanges down changes nothing else. -/
theorem prepare_of_recorded (channel : PromptChannel (StateM σ)) (s : σ) (log : List Exchange)
    (h : Host) (c : Command) (event : Option Event) :
    h.prepare channel c event s =
      ((h.prepare channel.recorded c event (s, log)).1,
        (h.prepare channel.recorded c event (s, log)).2.1) := by
  obtain ⟨x, hstart, -, -⟩ := h.exists_start c event h.values
  cases hok : decide (c.mistakes (h.planFor c event h.values) 0 = []) with
  | false =>
    rw [hok] at hstart
    rw [prepare_of_mistaken _ _ hstart, prepare_of_mistaken _ _ hstart]
  | true =>
    rw [hok] at hstart
    rw [prepare_of_start _ _ hstart, prepare_of_start _ _ hstart,
      runPreactions_of_recorded channel _ _ s log]

end Host

end CommandTemplates
