/-
What is reported as available can be resolved, as far as events go.

A variable declares the kinds of events that it works in.  Reports read the
declaration, and resolution checks it before the rule of the variable is asked; but
the rule then takes the file or folder out of the event itself.  So the two agree if
the rule finds what it needs in every event of the declared kinds
(`Variable.SuitsItsEvents`), which the built-in and the custom variables all do.

* `Event.exists_file?`, `Event.exists_folder?` — what events of the file and folder
  kinds deliver, as long as they carry a subject;
* `Variable.resolve_of_unavailable` — resolution refuses a variable exactly where it is
  not available, without its rule;
* `Builtin.suitsItsEvents`, `CustomVariable.suitsItsEvents` — no rule blames an event
  that its variable works in;
* `Variable.resolve_agrees_with_availability` — what comes of both.
-/
import CommandTemplates.Template.Expansion
import CommandTemplates.Variable.Registry
import Mathlib.Data.List.Basic

namespace CommandTemplates

namespace Event

variable {e : Event}

/-- Whether an event of a file or folder kind has its file or folder. -/
def CarriesSubject (e : Event) : Prop :=
  e.kind.isFileKind = true ∨ e.kind.isFolderKind = true → e.subject.isSome = true

theorem exists_file? (h : e.CarriesSubject) (hkind : e.kind ∈ EventKind.fileKinds) :
    ∃ file, e.file? = some file := by
  have hfile : e.kind.isFileKind = true := by simpa [EventKind.isFileKind] using hkind
  obtain ⟨item, hitem⟩ := Option.isSome_iff_exists.1 (h (.inl hfile))
  exact ⟨item, by simp [file?, hitem, hfile]⟩

theorem exists_folder? (h : e.CarriesSubject)
    (hkind : e.kind ∈ EventKind.fileKinds ++ EventKind.folderKinds) :
    ∃ folder, e.folder? = some folder := by
  have hkinds : e.kind.isFileKind = true ∨ e.kind.isFolderKind = true := by
    simpa [EventKind.isFileKind, EventKind.isFolderKind] using hkind
  obtain ⟨item, hitem⟩ := Option.isSome_iff_exists.1 (h hkinds)
  cases hfolder : e.kind.isFolderKind with
  | true => exact ⟨item, by simp [folder?, hitem, hfolder]⟩
  | false =>
    -- then it is of a file kind, and the folder is the one around the file
    have hfile : e.kind.isFileKind = true := by simpa [hfolder] using hkinds
    exact ⟨item.parent, by simp [folder?, hitem, hfolder, hfile]⟩

end Event

namespace Context

/-- The kind of the event that triggered the command, if one did. -/
def trigger (ctx : Context) : Option EventKind := ctx.event.map (·.kind)

/-- Whether the event, if there is one, has the file or folder that its kind is about. -/
def CarriesSubject (ctx : Context) : Prop := ∀ e, ctx.event = some e → e.CarriesSubject

end Context

/-- Whether an error puts the blame on the event, or on that there is none. -/
def VariableError.BlamesEvent : VariableError → Prop
  | .unsupportedEvent _ _ | .missingSubject _ _ => True
  | _ => False

namespace Variable

variable {v : Variable} {arguments : Arguments} {ctx : Context}

/-! ### The check of the declaration -/

theorem eventRefusal?_eq (v : Variable) (event : Option Event) :
    v.eventRefusal? event =
      if v.isAvailableIn (event.map (·.kind)) then none
      else some (.unsupportedEvent v.name (event.map (·.kind))) := by
  unfold eventRefusal? isAvailableIn
  cases v.supportedEvents with
  | none => rfl
  | some kinds =>
    cases event with
    | none => rfl
    | some e => by_cases hkind : e.kind ∈ kinds <;> simp [hkind]

theorem refusal?_of_unavailable (h : v.isAvailableIn ctx.trigger = false) :
    v.refusal? ctx = some (.unsupportedEvent v.name ctx.trigger) := by
  have hrefusal : v.eventRefusal? ctx.event = some (.unsupportedEvent v.name ctx.trigger) := by
    rw [eventRefusal?_eq, ← Context.trigger, h, if_neg Bool.false_ne_true]
  rw [refusal?, hrefusal]

theorem resolve_of_unavailable (h : v.isAvailableIn ctx.trigger = false) :
    v.resolve arguments ctx = .error (.unsupportedEvent v.name ctx.trigger) := by
  rw [resolve, refusal?_of_unavailable h]

/-- A pass does not count a value as made if the variable is not available. -/
theorem generated_of_unavailable {pass : Pass} (h : v.isAvailableIn pass.context.trigger = false)
    (memo : Memo) (request : Request) :
    (pass.result memo v request arguments).2.generated = memo.generated := by
  unfold Pass.result
  split
  · rfl
  · simp [refusal?_of_unavailable h]

/-- Where the variable is available, only its rule can blame the event. -/
theorem generate_of_resolve {e : VariableError} (h : v.isAvailableIn ctx.trigger = true)
    (herror : v.resolve arguments ctx = .error e) (hblames : e.BlamesEvent) :
    v.generate arguments ctx = .error e := by
  have hrefusal : v.eventRefusal? ctx.event = none := by
    rw [eventRefusal?_eq, ← Context.trigger, h, if_pos rfl]
  rw [resolve, refusal?, hrefusal] at herror
  -- a missing active file is the only other reason to refuse, and it does not blame the
  -- event
  by_cases hfile : (v.needsActiveFile && ctx.environment.activeFile.isNone) = true
  · simp only [hfile, if_true, Except.error.injEq] at herror
    subst herror
    exact hblames.elim
  · simpa only [hfile, if_neg Bool.false_ne_true] using herror

/-! ### Rules and their events -/

/-- Whether the rule of a variable never blames an event that the variable works in. -/
def SuitsItsEvents (v : Variable) : Prop :=
  ∀ arguments ctx e, ctx.CarriesSubject → v.isAvailableIn ctx.trigger = true →
    v.generate arguments ctx = .error e → ¬ e.BlamesEvent

/-- A rule that makes a value of everything blames nothing. -/
theorem suitsItsEvents_of_total (h : ∀ arguments ctx, ∃ text, v.generate arguments ctx = .ok text) :
    v.SuitsItsEvents := by
  intro arguments ctx e _ _ herror
  obtain ⟨text, htext⟩ := h arguments ctx
  simp [htext] at herror

theorem suitsItsEvents_of_activeFile {f : WorkspaceItem → Environment → Arguments → String}
    (hrule : v.generate = Builtin.ofActiveFile v.name f) : v.SuitsItsEvents := by
  intro arguments ctx e _ _ herror hblames
  rw [hrule, Builtin.ofActiveFile] at herror
  split at herror
  · simp at herror
  · rw [Except.error.injEq] at herror
    subst herror
    exact hblames

/-- An event that the variable works in is there, and is of one of its kinds. -/
theorem exists_event_of_available {kinds : List EventKind} (hkinds : v.supportedEvents = some kinds)
    (h : v.isAvailableIn ctx.trigger = true) : ∃ e, ctx.event = some e ∧ e.kind ∈ kinds := by
  cases hevent : ctx.event with
  | none => simp [isAvailableIn, hkinds, Context.trigger, hevent] at h
  | some e => exact ⟨e, rfl, by simpa [isAvailableIn, hkinds, Context.trigger, hevent] using h⟩

theorem suitsItsEvents_of_event {kinds : List EventKind} {f : Event → String}
    (hkinds : v.supportedEvents = some kinds)
    (hrule : v.generate = fun _ => Builtin.ofEvent v.name fun e => .ok (f e)) :
    v.SuitsItsEvents := by
  intro arguments ctx error _ havailable herror
  obtain ⟨e, hevent, -⟩ := exists_event_of_available hkinds havailable
  simp [hrule, Builtin.ofEvent, hevent] at herror

/-- A rule that is about the subject of the event finds it, if every event of the kinds of the
variable delivers one. -/
theorem suitsItsEvents_of_subject {kinds : List EventKind} {subject? : Event → Option WorkspaceItem}
    {f : WorkspaceItem → Environment → Arguments → String}
    (hkinds : v.supportedEvents = some kinds)
    (hrule : v.generate = Builtin.ofSubject v.name subject? f)
    (hsubject : ∀ e : Event, e.CarriesSubject → e.kind ∈ kinds → ∃ item, subject? e = some item) :
    v.SuitsItsEvents := by
  intro arguments ctx error hcarries havailable herror
  obtain ⟨e, hevent, hkind⟩ := exists_event_of_available hkinds havailable
  obtain ⟨item, hitem⟩ := hsubject e (hcarries e hevent) hkind
  simp [hrule, Builtin.ofSubject, Builtin.ofEvent, hevent, hitem] at herror

end Variable

namespace Builtin

theorem environment_suitsItsEvents : environment.SuitsItsEvents := by
  intro arguments ctx e _ _ herror hblames
  simp only [environment] at herror
  split at herror
  · simp at herror
  · rw [Except.error.injEq] at herror
    subst herror
    exact hblames

open Variable in
/-- No rule of a built-in variable blames an event that the variable works in. -/
theorem suitsItsEvents : ∀ v ∈ all, v.SuitsItsEvents := by
  simp only [all, List.forall_mem_cons]
  exact ⟨suitsItsEvents_of_total fun _ _ => ⟨_, rfl⟩,
    environment_suitsItsEvents,
    suitsItsEvents_of_activeFile (by rw [fileExtension]),
    suitsItsEvents_of_activeFile (by rw [fileName]),
    suitsItsEvents_of_activeFile (by rw [filePath]),
    suitsItsEvents_of_activeFile (by rw [folderName]),
    suitsItsEvents_of_activeFile (by rw [folderPath]),
    suitsItsEvents_of_activeFile (by rw [title]),
    suitsItsEvents_of_total fun _ _ => ⟨_, rfl⟩,
    suitsItsEvents_of_subject rfl (by rw [eventFileExtension]) fun _ => Event.exists_file?,
    suitsItsEvents_of_subject rfl (by rw [eventFileName]) fun _ => Event.exists_file?,
    suitsItsEvents_of_subject rfl (by rw [eventFilePath]) fun _ => Event.exists_file?,
    suitsItsEvents_of_subject rfl (by rw [eventFolderPath]) fun _ => Event.exists_folder?,
    suitsItsEvents_of_event rfl (by rw [eventType]),
    List.forall_mem_nil _⟩

end Builtin

theorem CustomVariable.suitsItsEvents (record : CustomVariable) :
    record.toVariable.SuitsItsEvents := by
  intro arguments ctx e _ _ herror hblames
  simp only [toVariable] at herror
  split at herror
  · simp at herror
  · rw [Except.error.injEq] at herror
    subst herror
    exact hblames

namespace Variable

/-! ### Both together -/

/-- Built-in and custom variables are refused for the event exactly where they are reported as not
available, and then for the event that there is: their rules are not asked, so that any other rule
would do as well, and no pass counts a value as made.  Where they are available they find the file
or folder that they are about, as long as events of the kinds with a file or folder carry one. -/
theorem resolve_agrees_with_availability {v : Variable}
    (hv : v ∈ Builtin.all ∨ ∃ record : CustomVariable, v = record.toVariable)
    (arguments : Arguments) (ctx : Context) (hcarries : ctx.CarriesSubject) :
    ((∃ name kind, v.resolve arguments ctx = .error (.unsupportedEvent name kind)) ↔
        v.isAvailableIn ctx.trigger = false) ∧
      (v.isAvailableIn ctx.trigger = false →
        v.resolve arguments ctx = .error (.unsupportedEvent v.name ctx.trigger) ∧
          (∀ rule, { v with generate := rule }.resolve arguments ctx = v.resolve arguments ctx) ∧
          ∀ (pass : Pass) (memo : Memo) (request : Request), pass.context = ctx →
            (pass.result memo v request arguments).2.generated = memo.generated) ∧
      ∀ name kind, v.resolve arguments ctx ≠ .error (.missingSubject name kind) := by
  have hsuits : v.SuitsItsEvents := by
    rcases hv with hv | ⟨record, rfl⟩
    · exact Builtin.suitsItsEvents v hv
    · exact record.suitsItsEvents
  -- where the variable is available, an error that blames the event would come from its rule
  have hblameless : v.isAvailableIn ctx.trigger = true →
      ∀ e, v.resolve arguments ctx = .error e → ¬ e.BlamesEvent := by
    intro havailable e herror hblames
    exact hsuits arguments ctx e hcarries havailable
      (generate_of_resolve havailable herror hblames) hblames
  refine ⟨⟨?_, fun h => ⟨_, _, resolve_of_unavailable h⟩⟩,
    fun h => ⟨resolve_of_unavailable h, ?_, ?_⟩, ?_⟩
  · rintro ⟨name, kind, herror⟩
    rw [← Bool.not_eq_true]
    exact fun havailable => hblameless havailable _ herror trivial
  · intro rule
    -- the declarations are the same, and no more is looked at
    have hrule : { v with generate := rule }.isAvailableIn ctx.trigger = false := h
    rw [resolve_of_unavailable hrule, resolve_of_unavailable h]
  · rintro pass memo request rfl
    exact generated_of_unavailable h memo request
  · intro name kind herror
    cases havailable : v.isAvailableIn ctx.trigger with
    | true => exact hblameless havailable _ herror trivial
    | false =>
      rw [resolve_of_unavailable havailable] at herror
      simp at herror

/-- An event about a folder has no file, which is why the name of its file is not available in it,
even though it carries a subject. -/
theorem resolve_agrees_with_availability_folderCreated :
    let ctx : Context :=
      { environment := { root := ⟨"/"⟩, now := ⟨0, 0, 0⟩ }
        event := some ⟨.folderCreated, some ⟨⟨"notes"⟩⟩⟩ }
    Builtin.eventFileName ∈ Builtin.all ∧ ctx.CarriesSubject ∧
      Builtin.eventFileName.isAvailableIn ctx.trigger = false ∧
      Builtin.eventFileName.resolve .empty ctx =
        .error (.unsupportedEvent "event_file_name" (some .folderCreated)) := by
  intro ctx
  have hmem : Builtin.eventFileName ∈ Builtin.all := by simp [Builtin.all]
  have hcarries : ctx.CarriesSubject := by
    rintro e ⟨⟩ -
    rfl
  have hunavailable : Builtin.eventFileName.isAvailableIn ctx.trigger = false := by decide
  have hagrees := resolve_agrees_with_availability (.inl hmem) .empty ctx hcarries
  exact ⟨hmem, hcarries, hunavailable, (hagrees.2.1 hunavailable).1⟩

end Variable

end CommandTemplates
