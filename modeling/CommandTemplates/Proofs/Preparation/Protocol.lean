/-
What a preparation promises.

* `Host.prepare_follows_course` — it always has an outcome, which the first pass, the
  preactions in their configured order and the second pass decide;
* `Host.prepare_of_rejects` — a command with a misused placeholder is never ready, and
  nobody is asked for it unless the placeholder belongs to the second pass.

The last exception is a real one: the arguments of a variable that depends on a preaction
are looked at after the preactions only.
-/
import CommandTemplates.Proofs.Host.Coherent

namespace CommandTemplates

/-- A preaction for a configured step, with the prompt that the settings have for it now. -/
def PromptPreaction.Runs (settings : Settings) (config : PreactionConfig) (p : PromptPreaction) :
    Prop :=
  config.kind = .prompt p.promptId ∧ p.prompt = settings.prompt? p.promptId

/-- The fault of a placeholder that is no use of a registered variable. -/
inductive Registry.Rejects (registry : Registry) (p : Placeholder) : String → Prop
  | unknown : p.escaped = false → registry.snapshot.get? p.name = none →
    Rejects registry p s!"unknown variable '{p.name}'"
  | arguments {v : Variable} {e : ArgumentError} : p.escaped = false →
    registry.snapshot.get? p.name = some v →
    Arguments.bind p.name v.parameters p.arguments = .error e → Rejects registry p e.message

namespace Command

variable {c : Command} {settings : Settings} {registry : Registry}

/-- The preactions that are built are those of the enabled steps, in their order. -/
theorem forall₂_runs_buildPreactions (configs : List PreactionConfig) :
    List.Forall₂ (PromptPreaction.Runs settings) (configs.filter (·.enabled))
      (buildPreactions settings registry configs) := by
  rw [buildPreactions, List.forall₂_map_right_iff, List.forall₂_same]
  rintro ⟨enabled, ⟨id⟩⟩ -
  exact ⟨rfl, rfl⟩

/-- The pass that comes to a misused placeholder leaves a message about it. -/
theorem failure?_of_rejects {first later : Context} {p : Placeholder} {fault : String}
    (hrejects : registry.Rejects p fault) :
    (c.plan settings registry first later).failure?
        (if (c.dependentVariables settings registry).contains p.name then 1 else 0) p =
      some (Plan.misplaced p fault) := by
  have hfirst := c.firstWith?_sets settings registry first later p.name
  cases hrejects with
  | unknown hescaped hname =>
    -- a name that nothing has is reported by the first pass
    have hnot : (c.dependentVariables settings registry).contains p.name = false := by
      rw [← VariableSet.get?_isSome, get?_dependentVariables, hname, ite_self]
      rfl
    rw [hname, Option.map_none] at hfirst
    simp [Plan.failure?, hescaped, hfirst, hnot]
  | arguments hescaped hname hbind =>
    rw [hname, Option.map_some] at hfirst
    simp [Plan.failure?, hescaped, hfirst, Plan.answer, hbind]

end Command

namespace Host

variable {σ : Type} {h : Host} {c : Command} {event : Option Event}

/-- Every preparation has an outcome, whatever the channel does.  It takes one of the courses, and
the preactions are those of the enabled steps in their order: for a command of a session, and for
one that remembers nothing. -/
theorem prepare_follows_course (channel : PromptChannel (StateM σ)) (s : σ) (h : Host)
    (c : Command) (event : Option Event) :
    ∃ outcome values exchanges s',
      (h.prepare channel.recorded c event).run (s, []) =
        ((.ok outcome, { h.rememberPreactions c.id with values }), s', exchanges) ∧
      (h.prepare channel c event).run s =
        ((.ok outcome, { h.rememberPreactions c.id with values }), s') ∧
      h.Prepares c event outcome values exchanges ∧
      (c.remembered = none ∨ h.Reachable ∧ c ∈ h.commands →
        List.Forall₂ (PromptPreaction.Runs h.settings) (c.config.preactions.filter (·.enabled))
          (c.preactions h.settings h.registry)) := by
  obtain ⟨outcome, values, exchanges, s', hrun, hprepares⟩ :=
    prepare_recorded channel s [] h c event
  have hplain := prepare_of_recorded channel s [] h c event
  rw [hrun] at hplain
  refine ⟨outcome, values, exchanges, s', hrun, hplain, hprepares, ?_⟩
  intro hc
  have hcurrent : c.IsCurrent h.settings h.registry := by
    rcases hc with hforgotten | ⟨hreachable, hmem⟩
    · exact Command.isCurrent_of_forgotten hforgotten
    · exact hreachable.coherent.current c hmem
  rw [hcurrent.preactions_eq]
  exact Command.forall₂_runs_buildPreactions _

/-- A command with a misused placeholder is never ready.  If the placeholder belongs to the first
pass, nobody is asked; if it belongs to the second and all preactions are accepted, the preparation
fails after them. -/
theorem prepare_of_rejects (channel : PromptChannel (StateM σ)) (s : σ) {p : Placeholder}
    {fault : String} (hp : p ∈ Placeholder.scan c.text ∨ p ∈ Placeholder.scan c.config.title)
    (hrejects : h.registry.Rejects p fault) :
    ∃ outcome values exchanges s',
      (h.prepare channel.recorded c event).run (s, []) =
        ((.ok outcome, { h.rememberPreactions c.id with values }), s', exchanges) ∧
      (∀ prepared, outcome ≠ .ready prepared) ∧
      ((c.dependentVariables h.settings h.registry).contains p.name = false →
        exchanges = [] ∧ values = h.values ∧
          ∃ messages, outcome = .failed messages ∧ Plan.misplaced p fault ∈ messages) ∧
      (c.mistakes (h.planFor c event h.values) 0 = [] →
        List.Forall₂ PromptPreaction.Accepts (c.preactions h.settings h.registry) exchanges →
          ∃ messages, outcome = .failed messages ∧ Plan.misplaced p fault ∈ messages) := by
  obtain ⟨outcome, values, exchanges, s', hrun, hprepares⟩ :=
    prepare_recorded channel s [] h c event
  refine ⟨outcome, values, exchanges, s', hrun, ?_⟩
  -- the message is there after the pass of the placeholder, whatever the values are then
  have hmessage : ∀ values, Plan.misplaced p fault ∈ c.mistakes (h.planFor c event values)
      (if (c.dependentVariables h.settings h.registry).contains p.name then 1 else 0) :=
    fun values => c.mem_mistakes_iff.2 ⟨p, hp, Command.failure?_of_rejects hrejects⟩
  cases hdependent : (c.dependentVariables h.settings h.registry).contains p.name with
  | false =>
    rw [hdependent] at hmessage
    have hfirst : c.mistakes (h.planFor c event h.values) 0 ≠ [] :=
      List.ne_nil_of_mem (hmessage h.values)
    obtain ⟨rfl, rfl, rfl⟩ := hprepares.of_mistaken hfirst
    refine ⟨by simp, ?_, fun hnone => absurd hnone hfirst⟩
    exact fun _ => ⟨rfl, rfl, _, rfl, hmessage h.values⟩
  | true =>
    rw [hdependent] at hmessage
    -- of the second pass: only a preparation that gets there can show the message
    have hsecond : c.mistakes (h.planFor c event values) 1 ≠ [] :=
      List.ne_nil_of_mem (hmessage values)
    refine ⟨?_, by simp, ?_⟩
    · rintro prepared rfl
      exact hsecond hprepares.mistakes_of_ready
    · intro hnone hall
      obtain ⟨-, hfailed, -⟩ := hprepares.of_accepted hnone hall
      exact ⟨_, hfailed hsecond, hmessage values⟩

/-- A use of the prompted variable with an argument, which no custom variable takes. -/
def surplusArgument : Placeholder where
  escaped := false
  name := "_target"
  arguments := ["x"]
  span := ⟨5, 18⟩
  source := "\x7b\x7b_target:x\x7d\x7d"

theorem rejects_surplusArgument (text : String) :
    (oneQuestion text).registry.Rejects surplusArgument
      (ArgumentError.tooMany "_target" 0 1).message := by
  have hnames := (reachable_oneQuestion text).coherent.names
  have hfind : (oneQuestion text).registry.find? "id-1" = some ⟨"id-1", "target", ""⟩ := rfl
  exact .arguments rfl (Registry.get?_snapshot hnames hfind) rfl

theorem prepare_of_rejects_surplusArgument :
    let h := oneQuestion "echo \x7b\x7b_target:x\x7d\x7d"
    ∃ c ∈ h.commands, ∃ outcome values exchanges s',
      (h.prepare Script.channel.recorded c none).run ({ replies := [.ok (some ["a"])] }, []) =
        ((.ok outcome, { h.rememberPreactions c.id with values }), s', exchanges) ∧
      (∀ prepared, outcome ≠ .ready prepared) ∧
      (c.mistakes (h.planFor c none h.values) 0 = [] →
        List.Forall₂ PromptPreaction.Accepts (c.preactions h.settings h.registry) exchanges →
          ∃ messages, outcome = .failed messages ∧
            Plan.misplaced surplusArgument (ArgumentError.tooMany "_target" 0 1).message ∈
              messages) := by
  intro h
  have hp : surplusArgument ∈ Placeholder.scan h.commands[0].text := by decide +kernel
  obtain ⟨outcome, values, exchanges, s', hrun, hnever, -, hfailed⟩ :=
    prepare_of_rejects Script.channel { replies := [.ok (some ["a"])] } (.inl hp)
      (rejects_surplusArgument _)
  exact ⟨_, List.getElem_mem _, outcome, values, exchanges, s', hrun, hnever, hfailed⟩

/-- The user is asked for a command that cannot be prepared whatever the answer is. -/
theorem asked_in_vain :
    let h := oneQuestion "echo \x7b\x7b_target:x\x7d\x7d"
    h.Reachable ∧ ∃ c ∈ h.commands, ∃ p ∈ Placeholder.scan c.text, ∃ fault,
      h.registry.Rejects p fault ∧
        ((h.prepare Script.channel c none).run { replies := [.ok (some ["a"])] }).2.asked =
          ["p"] := by
  intro h
  have hp : surplusArgument ∈ Placeholder.scan h.commands[0].text := by decide +kernel
  refine ⟨reachable_oneQuestion _, _, List.getElem_mem _, _, hp, _, rejects_surplusArgument _, ?_⟩
  decide +kernel

end Host

end CommandTemplates
