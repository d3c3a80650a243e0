/-
What a command remembers is never out of date in a session.

A command remembers its preactions, and with them the variables that they give values
to.  Whatever changes the prompts, the variables or the steps of a command makes it
forget them (`Host.Coherent`).

* `Settings.prompt?_eq_some_iff` — prompts are told apart by their ids;
* `Command.IsCurrent.edit` — an edit leaves nothing behind that is out of date;
* `Host.Coherent.step`, `Host.Reachable.coherent` — nor does any step of a session.
-/
import CommandTemplates.Proofs.Host.Session
import CommandTemplates.Proofs.Settings.Rules
import CommandTemplates.Proofs.Variable.Names

namespace CommandTemplates

/-! ### Prompts by their ids -/

namespace Settings

theorem prompt?_eq_some_iff {s : Settings} (hnodup : (s.prompts.map (·.id)).Nodup)
    {id : PromptId} {prompt : PromptConfig} :
    s.prompt? id = some prompt ↔ prompt ∈ s.prompts ∧ prompt.id = id := by
  constructor
  · intro h
    exact ⟨List.mem_of_find?_eq_some h, by simpa using List.find?_some h⟩
  · rintro ⟨hmem, rfl⟩
    have hsome : (s.prompt? prompt.id).isSome := by
      rw [prompt?, List.find?_isSome]
      exact ⟨prompt, hmem, by simp⟩
    obtain ⟨found, hfound⟩ := Option.isSome_iff_exists.1 hsome
    have hid : found.id = prompt.id := by simpa using List.find?_some hfound
    rw [hfound, List.inj_on_of_nodup_map hnodup (List.mem_of_find?_eq_some hfound) hmem hid]

end Settings

/-! ### What a command remembers -/

namespace Command

variable {c : Command} {settings settings' : Settings} {registry : Registry}

/-- Whether a command remembers, if anything, the preactions that would be built now. -/
def IsCurrent (settings : Settings) (registry : Registry) (c : Command) : Prop :=
  ∀ steps, c.remembered = some steps →
    steps = buildPreactions settings registry c.config.preactions

theorem isCurrent_of_forgotten (h : c.remembered = none) : c.IsCurrent settings registry := by
  intro steps hsteps
  rw [h] at hsteps
  simp at hsteps

theorem IsCurrent.preactions_eq (h : c.IsCurrent settings registry) :
    c.preactions settings registry =
      buildPreactions settings registry c.config.preactions := by
  rw [preactions]
  cases hremembered : c.remembered with
  | none => rfl
  | some steps => exact h steps hremembered

theorem IsCurrent.remember (h : c.IsCurrent settings registry) :
    (c.remember settings registry).IsCurrent settings registry := by
  intro steps hsteps
  rw [Command.remember, Option.some.injEq] at hsteps
  rw [← hsteps, h.preactions_eq]
  rfl

theorem buildPreactions_congr (hprompts : settings.prompts = settings'.prompts)
    (configs : List PreactionConfig) :
    buildPreactions settings registry configs = buildPreactions settings' registry configs := by
  have hprompt : settings.prompt? = settings'.prompt? := by
    funext id
    rw [Settings.prompt?, Settings.prompt?, hprompts]
  rw [buildPreactions, buildPreactions, hprompt]

theorem IsCurrent.congr (h : c.IsCurrent settings registry)
    (hprompts : settings.prompts = settings'.prompts) : c.IsCurrent settings' registry := by
  intro steps hsteps
  rw [h steps hsteps, buildPreactions_congr hprompts]

/-- An edit of the steps makes the command forget, and an edit of its events leaves the steps
alone. -/
theorem IsCurrent.apply (h : c.IsCurrent settings registry) (edit : CommandEdit) :
    (edit.apply c).IsCurrent settings registry := by
  cases edit with
  | addPreaction config => exact isCurrent_of_forgotten rfl
  | setPreactionEnabled index enabled =>
    rw [CommandEdit.apply, setPreactionEnabled?]
    split
    · exact isCurrent_of_forgotten rfl
    · exact h
  | enableEvent kind => exact h
  | disableEvent kind =>
    rw [CommandEdit.apply, disableEvent]
    split
    · exact h
    · exact h
  | forgetPreactions => exact isCurrent_of_forgotten rfl

theorem IsCurrent.edit (h : c.IsCurrent settings registry) (edits : List CommandEdit) :
    (c.edit edits).IsCurrent settings registry := by
  induction edits generalizing c with
  | nil => exact h
  | cons edit edits ih => exact ih (h.apply edit)

end Command

/-! ### Sessions -/

namespace Host

variable {h h' : Host} {c : Command}

theorem mem_updateCommand {id : CommandId} {f : Command → Command} {commands : List Command}
    (hc : c ∈ updateCommand id f commands) :
    c ∈ commands ∨ ∃ earlier ∈ commands, c = f earlier := by
  induction commands with
  | nil => simp [updateCommand] at hc
  | cons first commands ih =>
    rw [updateCommand] at hc
    split at hc
    · rcases List.mem_cons.1 hc with rfl | hc
      · exact .inr ⟨first, List.mem_cons_self, rfl⟩
      · exact .inl (List.mem_cons_of_mem first hc)
    · rcases List.mem_cons.1 hc with rfl | hc
      · exact .inl List.mem_cons_self
      · rcases ih hc with hc | ⟨earlier, hearlier, rfl⟩
        · exact .inl (List.mem_cons_of_mem first hc)
        · exact .inr ⟨earlier, List.mem_cons_of_mem first hearlier, rfl⟩

theorem map_id_dropTarget (id : VariableId) (prompts : List PromptConfig) :
    (dropTarget id prompts).map (·.id) = prompts.map (·.id) := by
  simp [dropTarget, Function.comp_def]

/-- A host whose commands remember nothing out of date, with names that lead back to ids and
prompts that are told apart by their ids. -/
structure Coherent (h : Host) : Prop where
  current : ∀ c ∈ h.commands, c.IsCurrent h.settings h.registry
  names : h.registry.NamesApart
  prompts : (h.settings.prompts.map (·.id)).Nodup

theorem coherent_of_opened {settings : Settings} {environment : Environment}
    (hopen : ofSettings settings environment = .ok h) : h.Coherent := by
  obtain ⟨hviolation, hload, hsettings, hcommands⟩ := ofSettings_eq_ok hopen
  refine ⟨?_, .load hload, hsettings ▸ (Settings.violation?_eq_none_iff.1 hviolation).prompts⟩
  intro c hc
  rw [hcommands] at hc
  obtain ⟨config, -, rfl⟩ := List.mem_map.1 hc
  exact Command.isCurrent_of_forgotten rfl

/-- Another registry makes every command forget. -/
theorem Coherent.withRegistry (hcoherent : h.Coherent) {registry : Registry}
    (hnames : registry.NamesApart) : (h.withRegistry registry).Coherent := by
  refine ⟨?_, hnames, hcoherent.prompts⟩
  intro c hc
  obtain ⟨earlier, -, rfl⟩ := List.mem_map.1 hc
  exact Command.isCurrent_of_forgotten rfl

theorem Coherent.withoutVariable (hcoherent : h.Coherent) (id : VariableId)
    {registry : Registry} (hnames : registry.NamesApart) :
    (h.withoutVariable id registry).Coherent := by
  refine ⟨?_, hnames, ?_⟩
  · intro c hc
    obtain ⟨earlier, -, rfl⟩ := List.mem_map.1 hc
    exact Command.isCurrent_of_forgotten rfl
  · show ((dropTarget id h.settings.prompts).map (·.id)).Nodup
    rw [map_id_dropTarget]
    exact hcoherent.prompts

theorem Coherent.withCommand (hcoherent : h.Coherent) (id : CommandId) {edited : Command}
    (hedited : edited.IsCurrent h.settings h.registry) : (h.withCommand id edited).Coherent := by
  refine ⟨?_, hcoherent.names, hcoherent.prompts⟩
  intro c hc
  have hcurrent : c.IsCurrent h.settings h.registry := by
    rcases mem_updateCommand hc with hc | ⟨-, -, rfl⟩
    · exact hcoherent.current c hc
    · exact hedited
  -- the edit has changed the settings, but not their prompts
  exact hcurrent.congr rfl

theorem Coherent.rememberPreactions (hcoherent : h.Coherent) (id : CommandId) :
    (h.rememberPreactions id).Coherent := by
  refine ⟨?_, hcoherent.names, hcoherent.prompts⟩
  intro c hc
  rcases mem_updateCommand hc with hc | ⟨earlier, hearlier, rfl⟩
  · exact hcoherent.current c hc
  · exact (hcoherent.current earlier hearlier).remember

theorem Coherent.step {action : Action} (hcoherent : h.Coherent) (hstep : h.Step action h') :
    h'.Coherent := by
  cases hstep with
  | refused => exact hcoherent
  | created freshId => exact hcoherent.withRegistry (hcoherent.names.create freshId)
  | renamed hrename => exact hcoherent.withRegistry (hcoherent.names.rename hrename)
  | described hdescribe => exact hcoherent.withRegistry (hcoherent.names.describe hdescribe)
  | deleted hdelete => exact hcoherent.withoutVariable _ (hcoherent.names.delete hdelete)
  | edited edits hcommand =>
    have hcurrent := hcoherent.current _ (List.mem_of_find?_eq_some hcommand)
    exact hcoherent.withCommand _ (hcurrent.edit edits)
  | valueSet id value => exact ⟨hcoherent.current, hcoherent.names, hcoherent.prompts⟩
  | previewed => exact hcoherent.rememberPreactions _
  | inspected id => exact hcoherent.rememberPreactions id
  | @prepared id c =>
    have hremembered := hcoherent.rememberPreactions c.id
    exact ⟨hremembered.current, hremembered.names, hremembered.prompts⟩

theorem Reachable.coherent (hreachable : h.Reachable) : h.Coherent :=
  hreachable.invariant (fun _ _ _ => coherent_of_opened) fun _ _ _ => Coherent.step

end Host

end CommandTemplates
