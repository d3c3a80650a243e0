/-
A preview shows what a preparation will run.

A preview expands a command as far as the first pass.  If no placeholder of the command
waits for a preaction, the first pass settles them all, and whatever the preactions
store is not asked for any more.

* `Plan.shown_of_settled` — what a pass has settled is shown as it is by later passes;
* `Host.preview_of_ready` — so a command that gets ready was shown, before it was
  prepared, as it is run.
-/
import CommandTemplates.Proofs.Host.Session

namespace CommandTemplates

namespace Plan

variable {plan : Plan} {p : Placeholder}

/-- What the first pass leaves settled is what all passes show. -/
theorem shown_of_settled {k : Nat} {text : String} (h : plan.settled? k p = some text) :
    plan.shown (k + 1) p = plan.shown k p := by
  rw [shown, shown, h, (settled?_succ h).1]

/-- A template that a plan expands in two passes, of which the second has nothing to do. -/
theorem Expands.eq_shown_one {template text : String} (h : plan.Expands 2 template text)
    (hsettled : ∀ p ∈ Placeholder.scan template, ∃ text, plan.settled? 1 p = some text) :
    text = substitute template (plan.shown 1) := by
  obtain ⟨replacement, hreplaced, rfl⟩ := h
  refine substitute_congr ?_
  intro p hp
  obtain ⟨text, htext⟩ := hsettled p hp
  rw [← shown_of_settled htext]
  exact ((hreplaced p hp _).2 rfl).eq_shown

end Plan

namespace Host

variable {σ : Type} {h : Host} {c : Command}

/-- A template without messages and without placeholders that wait for preactions. -/
theorem exists_settled_of_independent {values : ValueStore} {template : String}
    (hnone : (h.planFor c none values).errorsIn 0 template = [])
    (hindependent : ∀ p ∈ Placeholder.scan template, p.escaped = false →
      (c.dependentVariables h.settings h.registry).contains p.name = false) :
    ∀ p ∈ Placeholder.scan template,
      ∃ text, (h.planFor c none values).settled? 1 p = some text := by
  intro p hp
  refine Plan.exists_settled (fun i hi => ?_) fun hescaped i v hfirst => ?_
  · obtain rfl : i = 0 := by omega
    exact Plan.errorsIn_eq_nil.1 hnone p hp
  · rw [planFor, Command.firstWith?_sets, hindependent p hp hescaped] at hfirst
    obtain ⟨w, -, heq⟩ := Option.map_eq_some_iff.1 hfirst
    have hzero : 0 = i := congrArg Prod.fst heq
    omega

/-- If the first pass leaves no message, a preview shows what it makes of the title, or of the text
if there is no title. -/
theorem preview_eq_substitute (values : ValueStore)
    (hnone : c.mistakes (h.planFor c none h.values) 0 = []) :
    (h.preview c).1 =
      substitute (if c.config.title = "" then c.text else c.config.title)
        ((h.planFor c none values).shown 1) := by
  obtain ⟨x, hstart, -, hreport⟩ := h.exists_start c none values
  have herrors : ∀ template, (h.planFor c none values).errorsIn 0 template = [] →
      (h.planFor c none values).errorsAfter template 1 = [] := by
    intro template htemplate
    simp [Plan.errorsAfter, htemplate]
  -- the first pass does not see the values of later, so it makes the same of both texts
  rw [h.mistakes_zero_planFor c none h.values values] at hnone
  obtain ⟨htext, htitle⟩ := c.mistakes_eq_nil.1 hnone
  have hcontent := hreport.content c.get?_templates_text (herrors _ htext)
  have hcontent' := hreport.content c.get?_templates_title (herrors _ htitle)
  show c.preview h.settings h.registry (h.context none) = _
  rw [Command.preview, hstart]
  simp only [hcontent, hcontent']
  split
  · rfl
  · rfl

/-- A command none of whose placeholders is for a variable that depends on its preactions.  However
its prompts are answered, if it gets ready then a preview of before shows the title that it has
then, or its command line if it has no title. -/
theorem preview_of_ready {channel : PromptChannel (StateM σ)} {s s' : σ} {after : Host}
    {prepared : PreparedCommand}
    (hindependent : ∀ p, p ∈ Placeholder.scan c.text ∨ p ∈ Placeholder.scan c.config.title →
      p.escaped = false → (c.dependentVariables h.settings h.registry).contains p.name = false)
    (hready : (h.prepare channel c none).run s = ((.ok (.ready prepared), after), s')) :
    (h.preview c).1 = if c.config.title = "" then prepared.command else prepared.title := by
  obtain ⟨outcome, values, exchanges, s'', hrun, hprepares⟩ :=
    prepare_recorded channel s [] h c none
  have hplain := prepare_of_recorded channel s [] h c none
  rw [hrun] at hplain
  have houtcome : outcome = .ready prepared := by
    have hanswer := congrArg (fun run => run.1.1) (hplain.symm.trans hready)
    exact Except.ok.inj hanswer
  subst houtcome
  cases hprepares with
  | ended _ hended => exact absurd rfl (hended.ne_ready prepared)
  -- ready after both passes, where the second one has found nothing to replace
  | @ready _ _ _ _ text title hnone _ _ _ _ _ _ _ hexpands hexpands' =>
    rw [preview_eq_substitute values hnone]
    rw [h.mistakes_zero_planFor c none h.values values] at hnone
    obtain ⟨htext, htitle⟩ := c.mistakes_eq_nil.1 hnone
    split
    · exact (hexpands.eq_shown_one (exists_settled_of_independent htext
        fun p hp => hindependent p (.inl hp))).symm
    · exact (hexpands'.eq_shown_one (exists_settled_of_independent htitle
        fun p hp => hindependent p (.inr hp))).symm

/-- A command that shows one custom variable and the placeholder of another, which its prompt asks
for. -/
theorem preview_of_ready_escaped :
    let h := ((oneQuestion "echo \x7b\x7b_1\x7d\x7d \x7b\x7b!_target\x7d\x7d").perform
      (.createVariable "id-2")).perform (.setValue "id-2" "v")
    let script : Script := { replies := [.ok (some ["a"])] }
    let prepared : PreparedCommand :=
      ⟨"c", "/bin/sh", "echo v \x7b\x7b_target\x7d\x7d", "", false, []⟩
    ∃ c ∈ h.commands,
      (∀ p, p ∈ Placeholder.scan c.text ∨ p ∈ Placeholder.scan c.config.title →
        p.escaped = false →
        (c.dependentVariables h.settings h.registry).contains p.name = false) ∧
      (c.dependentVariables h.settings h.registry).names = ["_target"] ∧
      ∃ after s', (h.prepare Script.channel c none).run script =
          ((.ok (.ready prepared), after), s') ∧
        after.values.get? "id-1" = some "a" ∧
        (h.preview c).1 = if c.config.title = "" then prepared.command else prepared.title := by
  intro h script prepared
  have hcommand : ∃ c ∈ h.commands,
      (∀ p ∈ Placeholder.scan c.text ++ Placeholder.scan c.config.title, p.escaped = false →
        (c.dependentVariables h.settings h.registry).contains p.name = false) ∧
      (c.dependentVariables h.settings h.registry).names = ["_target"] ∧
      ((h.prepare Script.channel c none).run script).1.1 = .ok (.ready prepared) ∧
      ((h.prepare Script.channel c none).run script).1.2.values.get? "id-1" = some "a" := by
    decide +kernel
  obtain ⟨c, hc, hscan, hnames, hanswer, hvalue⟩ := hcommand
  have hindependent : ∀ p, p ∈ Placeholder.scan c.text ∨ p ∈ Placeholder.scan c.config.title →
      p.escaped = false →
      (c.dependentVariables h.settings h.registry).contains p.name = false :=
    fun p hp => hscan p (List.mem_append.2 hp)
  have hready : (h.prepare Script.channel c none).run script =
      ((.ok (.ready prepared), ((h.prepare Script.channel c none).run script).1.2),
        ((h.prepare Script.channel c none).run script).2) := by
    rw [← hanswer]
    rfl
  exact ⟨c, hc, hindependent, hnames, _, _, hready, hvalue, preview_of_ready hindependent hready⟩

end Host

end CommandTemplates
