/-
The name of a file and its parts, as variables show them.

A name is cut at its last dot, and the extension is shown with or without that dot.  The
dot is left out together with an empty extension, so a name that ends in a dot cannot be
put together again from its title and its extension with the dot.

* `splitLastDot?_append`, `splitLastDot?_eq_none` — where a name is cut;
* `WorkspaceItem.nameParts` — when the parts of an item's name make up the name;
* `Variable.shown?_of_activeFile`, `Variable.shown?_of_eventFile` — what placeholders of
  variables about the active file and about the event's file show;
* `Builtin.file_name_recomposes` — the names and parts that they show.
-/
import CommandTemplates.Variable.Builtin
import Mathlib.Data.List.TakeWhile

namespace CommandTemplates

/-! ### The last dot -/

section LastDot

variable {name before after : List Char}

theorem splitLastDot?_append (h : '.' ∉ after) :
    splitLastDot? (before ++ '.' :: after) = some (before, after) := by
  have hafter : ∀ c ∈ after.reverse, decide (c ≠ '.') = true := by
    intro c hc
    exact decide_eq_true fun heq => h (heq ▸ List.mem_reverse.1 hc)
  have hreverse : (before ++ '.' :: after).reverse = after.reverse ++ '.' :: before.reverse := by
    simp
  rw [splitLastDot?, hreverse, List.dropWhile_append_of_pos hafter,
    List.takeWhile_append_of_pos hafter]
  simp

theorem splitLastDot?_eq_none (h : '.' ∉ name) : splitLastDot? name = none := by
  have hdrop : name.reverse.dropWhile (· ≠ '.') = [] := by
    rw [List.dropWhile_eq_nil_iff]
    intro c hc
    exact decide_eq_true fun heq => h (heq ▸ List.mem_reverse.1 hc)
  rw [splitLastDot?, hdrop]

/-- A name with a dot has a last one. -/
theorem exists_lastDot (h : '.' ∈ name) :
    ∃ before after, name = before ++ '.' :: after ∧ '.' ∉ after := by
  obtain ⟨after, before, hreverse, hafter⟩ := List.eq_append_cons_of_mem (List.mem_reverse.2 h)
  refine ⟨before.reverse, after.reverse, ?_, by simpa using hafter⟩
  simpa using congrArg List.reverse hreverse

/-- A name ends in a dot if nothing is behind its last one. -/
theorem getLast?_eq_dot_iff (h : '.' ∉ after) :
    (before ++ '.' :: after).getLast? = some '.' ↔ after = [] := by
  cases hlast : after.getLast? with
  | none =>
    obtain rfl := List.getLast?_eq_none_iff.1 hlast
    simp
  | some c =>
    have hmem : c ∈ after := List.mem_of_getLast? hlast
    have hne : after ≠ [] := List.ne_nil_of_mem hmem
    have hc : c ≠ '.' := fun heq => h (heq ▸ hmem)
    simp [List.getLast?_append, List.getLast?_cons, hlast, hne, hc]

end LastDot

/-- How a name relates to its title and to its extension with and without a dot. -/
structure NameParts (name title dotted bare : String) : Prop where
  dotted_iff : title ++ dotted = name ↔ name.toList.getLast? ≠ some '.'
  bare_iff : title ++ "." ++ bare = name ↔ '.' ∈ name.toList
  dot_notMem : '.' ∉ bare.toList

namespace WorkspaceItem

variable {item : WorkspaceItem}

theorem parts_of_dot_notMem (h : '.' ∉ item.name.toList) :
    item.stem = item.name ∧ item.extension = "" := by
  unfold stem extension
  rw [splitLastDot?_eq_none h]
  exact ⟨rfl, rfl⟩

theorem parts_of_name_eq {before after : List Char}
    (hname : item.name.toList = before ++ '.' :: after) (h : '.' ∉ after) :
    item.stem = String.ofList before ∧ item.extension = String.ofList after := by
  unfold stem extension
  rw [hname, splitLastDot?_append h]
  exact ⟨rfl, rfl⟩

/-- The extension behind a dot, if there is an extension. -/
def dottedExtension (item : WorkspaceItem) : String :=
  if item.extension = "" then "" else "." ++ item.extension

theorem nameParts_of_dot_notMem (h : '.' ∉ item.name.toList) :
    NameParts item.name item.stem item.dottedExtension item.extension := by
  obtain ⟨hstem, hextension⟩ := parts_of_dot_notMem h
  have hdotted : item.dottedExtension = "" := by rw [dottedExtension, if_pos hextension]
  rw [hstem, hdotted, hextension]
  refine ⟨iff_of_true String.append_empty fun hlast => h (List.mem_of_getLast? hlast),
    iff_of_false (fun heq => h ?_) h, by simp⟩
  rw [← heq]
  simp

theorem nameParts_of_name_eq {before after : List Char}
    (hname : item.name.toList = before ++ '.' :: after) (h : '.' ∉ after) :
    NameParts item.name item.stem item.dottedExtension item.extension := by
  obtain ⟨hstem, hextension⟩ := parts_of_name_eq hname h
  have hwhole : item.stem ++ "." ++ item.extension = item.name := by
    rw [hstem, hextension, ← String.toList_inj, hname]
    simp
  have hdot : '.' ∈ item.name.toList := by simp [hname]
  refine ⟨?_, iff_of_true hwhole hdot, by rwa [hextension, String.toList_ofList]⟩
  rw [Ne, hname, getLast?_eq_dot_iff h]
  by_cases hafter : after = []
  · -- the dot at the end is in none of the parts
    have hdotted : item.dottedExtension = "" := by
      rw [dottedExtension, if_pos (by rw [hextension, hafter, String.ofList_nil])]
    refine iff_of_false (fun heq => ?_) (fun hne => hne hafter)
    rw [hdotted, hstem, ← String.toList_inj, hname] at heq
    simp at heq
  · have hne : item.extension ≠ "" := by
      rw [hextension, Ne, ← String.toList_inj, String.toList_ofList]
      exact hafter
    rw [dottedExtension, if_neg hne, ← String.append_assoc]
    exact iff_of_true hwhole hafter

/-- What an item's name has to do with its parts. -/
theorem nameParts (item : WorkspaceItem) :
    NameParts item.name item.stem item.dottedExtension item.extension := by
  by_cases hdot : '.' ∈ item.name.toList
  · obtain ⟨before, after, hname, hafter⟩ := exists_lastDot hdot
    exact nameParts_of_name_eq hname hafter
  · exact nameParts_of_dot_notMem hdot

end WorkspaceItem

namespace Arguments

/-- An argument that suits the only parameter is bound to its name. -/
theorem bind_of_accepts (variableName : String) {p : Parameter} {argument : String}
    (h : p.accepts argument = true) :
    bind variableName [p] [argument] = .ok (Dictionary.empty.insert p.name argument) := by
  rw [Parameter.accepts] at h
  simp only [bind, bindFrom, List.length_singleton, Nat.lt_irrefl, if_false]
  split at h
  · rfl
  · rw [if_pos (of_decide_eq_true h)]

end Arguments

namespace Variable

variable {v : Variable} {written : List String} {arguments : Arguments} {ctx : Context}
  {f : WorkspaceItem → Environment → Arguments → String}

/-! ### What placeholders show -/

/-- The value of a placeholder that names the variable, with these arguments; `none` if they do not
suit its parameters or it has no value. -/
def shown? (v : Variable) (written : List String) (ctx : Context) : Option String :=
  match Arguments.bind v.name v.parameters written with
  | .ok arguments => (v.resolve arguments ctx).toOption
  | .error _ => none

theorem shown?_of_bind (h : Arguments.bind v.name v.parameters written = .ok arguments) :
    v.shown? written ctx = (v.resolve arguments ctx).toOption := by
  rw [shown?, h]

/-- A variable about the active file shows what its rule makes of the file. -/
theorem shown?_of_activeFile {file : WorkspaceItem}
    (hrule : v.generate = Builtin.ofActiveFile v.name f) (hevents : v.supportedEvents = none)
    (hbind : Arguments.bind v.name v.parameters written = .ok arguments)
    (hfile : ctx.environment.activeFile = some file) :
    v.shown? written ctx = some (f file ctx.environment arguments) := by
  have hrefusal : v.refusal? ctx = none := by simp [refusal?, eventRefusal?, hevents, hfile]
  rw [shown?_of_bind hbind, resolve, hrefusal, hrule, Builtin.ofActiveFile, hfile]
  rfl

/-- A variable about the file of the event shows what its rule makes of the file. -/
theorem shown?_of_eventFile {event : Event} {file : WorkspaceItem}
    (hrule : v.generate = Builtin.ofSubject v.name Event.file? f)
    (hevents : v.supportedEvents = some EventKind.fileKinds) (hneeds : v.needsActiveFile = false)
    (hbind : Arguments.bind v.name v.parameters written = .ok arguments)
    (hevent : ctx.event = some event) (hfile : event.file? = some file) :
    v.shown? written ctx = some (f file ctx.environment arguments) := by
  -- an event with a file is one of a file, so the variable is not refused
  have hkind : event.kind ∈ EventKind.fileKinds := by
    simpa [EventKind.isFileKind] using (Option.filter_eq_some_iff.1 hfile).2
  have hrefusal : v.refusal? ctx = none := by
    simp [refusal?, eventRefusal?, hevents, hevent, hkind, hneeds]
  rw [shown?_of_bind hbind, resolve, hrefusal, hrule, Builtin.ofSubject, Builtin.ofEvent, hevent]
  simp only [hfile]
  rfl

end Variable

namespace Builtin

variable {ctx : Context} {file : WorkspaceItem}

theorem extensionText_withDot (item : WorkspaceItem) :
    extensionText item (Dictionary.empty.insert dotParameter.name "with-dot") =
      item.dottedExtension := by
  by_cases h : item.extension = "" <;>
    simp [extensionText, dotParameter, WorkspaceItem.dottedExtension, Dictionary.get?_insert, h]

theorem extensionText_noDot (item : WorkspaceItem) :
    extensionText item (Dictionary.empty.insert dotParameter.name "no-dot") = item.extension := by
  simp [extensionText, dotParameter, Dictionary.get?_insert]

theorem shown?_fileName (h : ctx.environment.activeFile = some file) :
    fileName.shown? [] ctx = some file.name := by
  rw [Variable.shown?_of_activeFile (v := fileName) (by rw [fileName]) rfl rfl h]

theorem shown?_title (h : ctx.environment.activeFile = some file) :
    title.shown? [] ctx = some file.stem := by
  rw [Variable.shown?_of_activeFile (v := title) (by rw [title]) rfl rfl h]

theorem shown?_fileExtension (h : ctx.environment.activeFile = some file) {shape : String}
    (hshape : dotParameter.accepts shape = true) :
    fileExtension.shown? [shape] ctx =
      some (extensionText file (Dictionary.empty.insert dotParameter.name shape)) := by
  rw [Variable.shown?_of_activeFile (v := fileExtension) (by rw [fileExtension]) rfl
    (Arguments.bind_of_accepts _ hshape) h]

theorem shown?_eventFileName {event : Event} (hevent : ctx.event = some event)
    (hfile : event.file? = some file) : eventFileName.shown? [] ctx = some file.name := by
  rw [Variable.shown?_of_eventFile (v := eventFileName) (by rw [eventFileName]) rfl rfl rfl hevent
    hfile]

theorem shown?_eventFileExtension {event : Event} (hevent : ctx.event = some event)
    (hfile : event.file? = some file) {shape : String}
    (hshape : dotParameter.accepts shape = true) :
    eventFileExtension.shown? [shape] ctx =
      some (extensionText file (Dictionary.empty.insert dotParameter.name shape)) := by
  rw [Variable.shown?_of_eventFile (v := eventFileExtension) (by rw [eventFileExtension]) rfl rfl
    (Arguments.bind_of_accepts _ hshape) hevent hfile]

/-- The title of the active file and its extension behind a dot make up its name unless the name
ends in a dot; its title, a dot and its extension make up its name if the name has a dot; and there
is no dot in its extension.  The same holds of the file of an event. -/
theorem file_name_recomposes (ctx : Context) :
    (∀ file, ctx.environment.activeFile = some file →
        fileName.shown? [] ctx = some file.name ∧
          ∃ stem dotted bare, title.shown? [] ctx = some stem ∧
            fileExtension.shown? ["with-dot"] ctx = some dotted ∧
            fileExtension.shown? ["no-dot"] ctx = some bare ∧
            NameParts file.name stem dotted bare) ∧
      ∀ event file, ctx.event = some event → event.file? = some file →
        eventFileName.shown? [] ctx = some file.name ∧
          ∃ dotted bare, eventFileExtension.shown? ["with-dot"] ctx = some dotted ∧
            eventFileExtension.shown? ["no-dot"] ctx = some bare ∧
            NameParts file.name file.stem dotted bare := by
  have hwith : dotParameter.accepts "with-dot" = true := by decide
  have hno : dotParameter.accepts "no-dot" = true := by decide
  constructor
  · intro file h
    refine ⟨shown?_fileName h, file.stem, file.dottedExtension, file.extension, shown?_title h,
      ?_, ?_, file.nameParts⟩
    · rw [shown?_fileExtension h hwith, extensionText_withDot]
    · rw [shown?_fileExtension h hno, extensionText_noDot]
  · intro event file hevent hfile
    refine ⟨shown?_eventFileName hevent hfile, file.dottedExtension, file.extension, ?_, ?_,
      file.nameParts⟩
    · rw [shown?_eventFileExtension hevent hfile hwith, extensionText_withDot]
    · rw [shown?_eventFileExtension hevent hfile hno, extensionText_noDot]

/-- The dot at the end of a name gets lost between its title and its extension, and the only dot of
a name may be its first character. -/
theorem file_name_recomposes_dotsAtEnds :
    let file : WorkspaceItem := ⟨⟨"notes/v1.2."⟩⟩
    let created : WorkspaceItem := ⟨⟨"config/.env"⟩⟩
    let ctx : Context :=
      { environment := { root := ⟨"/vault"⟩, activeFile := some file, now := ⟨0, 0, 0⟩ }
        event := some ⟨.fileCreated, some created⟩ }
    ctx.environment.activeFile = some file ∧
      Event.file? ⟨.fileCreated, some created⟩ = some created ∧
      fileName.shown? [] ctx = some "v1.2." ∧ eventFileName.shown? [] ctx = some ".env" ∧
      (∃ stem dotted bare, title.shown? [] ctx = some stem ∧
        fileExtension.shown? ["with-dot"] ctx = some dotted ∧
        fileExtension.shown? ["no-dot"] ctx = some bare ∧
        stem ++ dotted ≠ "v1.2." ∧ stem ++ "." ++ bare = "v1.2.") ∧
      ∃ dotted, eventFileExtension.shown? ["with-dot"] ctx = some dotted ∧
        created.stem ++ dotted = ".env" := by
  intro file created ctx
  have hactive : ctx.environment.activeFile = some file := rfl
  have hcreated : Event.file? ⟨.fileCreated, some created⟩ = some created := by decide
  have hname : file.name = "v1.2." := by decide
  have hname' : created.name = ".env" := by decide
  obtain ⟨hshown, stem, dotted, bare, hstem, hdotted, hbare, hparts⟩ :=
    (file_name_recomposes ctx).1 file hactive
  obtain ⟨hshown', dotted', bare', hdotted', -, hparts'⟩ :=
    (file_name_recomposes ctx).2 _ created rfl hcreated
  rw [hname] at hshown hparts
  rw [hname'] at hshown' hparts'
  exact ⟨hactive, hcreated, hshown, hshown',
    ⟨stem, dotted, bare, hstem, hdotted, hbare, fun h => hparts.dotted_iff.1 h (by decide),
      hparts.bare_iff.2 (by decide)⟩,
    dotted', hdotted', hparts'.dotted_iff.2 (by decide)⟩

end Builtin

end CommandTemplates
