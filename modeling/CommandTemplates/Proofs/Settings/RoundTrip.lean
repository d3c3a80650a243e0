/-
Settings are read back from the data, and from the JSON text, that they are written as.

Only the further settings of an event limit this (`EventConfig.Portable`): they stand
beside its switch, so none of them may have its name, and dates are told apart by a key
that no table among them may have.  Data is read back however deep it is, a text only if
the reader gets to the end of it: five lists and tables are around each further setting, and
it may fill the levels that are left (`Settings.Shallow`).

* `Decode.documentValue?_of_plain` — plain data is kept as it is;
* one lemma for each kind of record, `Decode.command?_encode` and its like: it is read
  back from its data, whatever the format;
* `Encode.settings_plain`, `Encode.settings_depth_lt` — what is written is plain data, and
  within the limit exactly if the further settings are;
* `Settings.json_round_trip` — settings are read back from their JSON, and from its text
  exactly if they are shallow.
-/
import CommandTemplates.Proofs.Data.Json.RoundTrip
import CommandTemplates.Settings.Decode
import CommandTemplates.Settings.Encode

namespace CommandTemplates

/-- Whether the further settings of an event can stand in any document: none is named as its
switch, and they are plain data without the key of dates. -/
structure EventConfig.Portable (config : EventConfig) : Prop where
  keys : ∀ e ∈ config.extras.entries, e.1 ≠ "enabled" ∧ e.1 ≠ Value.datetimeKey
  values : ∀ e ∈ config.extras.entries, e.2.Plain (· ≠ Value.datetimeKey)

/-- Whether the error codes of a command fit 32 bits and its event settings are portable. -/
structure CommandConfig.Portable (config : CommandConfig) : Prop where
  codes : ∀ n ∈ config.ignoreErrorCodes, -0x80000000 ≤ n ∧ n < 0x80000000
  events : ∀ e ∈ config.events.entries, e.2.Portable

/-- Whether each command of settings is portable. -/
def Settings.Portable (s : Settings) : Prop := ∀ config ∈ s.commands, config.Portable

/-- Whether the further settings of events have at most 122 levels of lists and tables, so that
with the five around them the limit of JSON texts is kept. -/
def Settings.Shallow (s : Settings) : Prop :=
  ∀ config ∈ s.commands, ∀ event ∈ config.events.entries, ∀ e ∈ event.2.extras.entries,
    e.2.depth + 5 < Json.depthLimit

instance (s : Settings) : Decidable s.Shallow :=
  inferInstanceAs (Decidable (∀ config ∈ s.commands, ∀ event ∈ config.events.entries,
    ∀ e ∈ event.2.extras.entries, e.2.depth + 5 < Json.depthLimit))

/-! ### Fields -/

namespace Value

variable {key : String} {fields : List (String × Value)}

theorem field?_cons_self (value : Value) : field? key ((key, value) :: fields) = some value := by
  simp [field?]

theorem field?_cons_of_ne {key' : String} (value : Value) (h : key' ≠ key) :
    field? key ((key', value) :: fields) = field? key fields := by
  simp [field?, h]

theorem field?_append (fields' : List (String × Value)) :
    field? key (fields ++ fields') = (field? key fields).or (field? key fields') := by
  simp only [field?, List.find?_append]
  cases fields.find? fun e => e.1 = key <;> rfl

theorem field?_optionalText_self (text : Option String) :
    field? key (Encode.optionalText key text) = text.map .text := by
  cases text with
  | none => rfl
  | some s => exact field?_cons_self _

theorem field?_optionalText_of_ne {key' : String} (text : Option String) (h : key' ≠ key) :
    field? key (Encode.optionalText key' text) = none := by
  cases text with
  | none => rfl
  | some s => exact field?_cons_of_ne _ h

end Value

theorem mapM_map_of_forall {α β : Type} {f : α → β} {g : β → Option α} {items : List α}
    (h : ∀ x ∈ items, g (f x) = some x) : (items.map f).mapM g = some items := by
  induction items with
  | nil => rfl
  | cons x items ih =>
    rw [List.map_cons, List.mapM_cons, h x (by simp), ih fun y hy => h y (by simp [hy])]
    rfl

/-! ### Reading back -/

namespace Decode

variable {format : TextFormat}

theorem list?_of_forall {α : Type} {f : α → Value} {g : Value → Option α} {items : List α}
    (h : ∀ x ∈ items, g (f x) = some x) : list? g (.list (items.map f)) = some items :=
  mapM_map_of_forall h

theorem map?_of_forall {α : Type} {f : α → Value} {g : Value → Option α} {m : SortedMap α}
    (h : ∀ e ∈ m.entries, g (f e.2) = some e.2) : map? g (Encode.map f m) = some m := by
  simp only [map?, Encode.map, entries?, Option.bind_eq_bind, Option.bind_some]
  rw [mapM_map_of_forall fun e he => by simp [h e he], Option.bind_some, SortedMap.ofList_entries]
  rfl

/-- The least of some keys is one of them. -/
theorem mem_of_leastKey? {entries : List (String × Value)} {key : String}
    (h : leastKey? entries = some key) : key ∈ entries.map Prod.fst := by
  -- every key that the walk holds is one of an entry, whatever it has seen so far
  refine List.foldlRecOn entries _ (fun key hkey => ?_) (fun least hleast e he key hkey => ?_)
    (motive := fun least => ∀ key, least = some key → key ∈ entries.map Prod.fst) key h
  · cases hkey
  · have hmem : e.1 ∈ entries.map Prod.fst := List.mem_map_of_mem he
    cases least with
    | none =>
      obtain rfl : e.1 = key := by simpa using hkey
      exact hmem
    | some k =>
      simp only at hkey
      split at hkey
      · obtain rfl : e.1 = key := by simpa using hkey
        exact hmem
      · exact hleast key hkey

/-- A key that is in no entry is not looked at first. -/
theorem firstKey?_ne {entries : List (String × Value)} {key : String}
    (h : ∀ e ∈ entries, e.1 ≠ key) : firstKey? format entries ≠ some key := by
  intro hfirst
  have hmem : key ∈ entries.map Prod.fst := by
    cases format with
    | toml =>
      obtain ⟨e, hhead, rfl⟩ := Option.map_eq_some_iff.1 hfirst
      exact List.mem_map_of_mem (List.mem_of_mem_head? hhead)
    | json => exact mem_of_leastKey? hfirst
  obtain ⟨e, he, hkey⟩ := List.mem_map.1 hmem
  exact h e he hkey

theorem documentValues?_of_forall {items : List Value}
    (h : ∀ v ∈ items, documentValue? format v = some v) :
    documentValues? format items = some items := by
  induction items with
  | nil => rw [documentValues?]
  | cons v items ih =>
    rw [documentValues?, h v (by simp), ih fun w hw => h w (by simp [hw])]
    rfl

theorem documentEntries?_of_forall {entries : List (String × Value)}
    (h : ∀ e ∈ entries, documentValue? format e.2 = some e.2) :
    documentEntries? format entries = some entries := by
  induction entries with
  | nil => rw [documentEntries?]
  | cons e entries ih =>
    obtain ⟨key, v⟩ := e
    rw [documentEntries?, h (key, v) (by simp), ih fun e he => h e (by simp [he])]
    rfl

/-- Plain data without the key of dates is kept as it is. -/
theorem documentValue?_of_plain {v : Value} (h : v.Plain (· ≠ Value.datetimeKey)) :
    documentValue? format v = some v := by
  induction h with
  | bool b => rw [documentValue?]
  | @integer n low high =>
    rw [documentValue?, Toml.integer?, if_pos (by simp [low, high])]
  | text s => rw [documentValue?]
  | list _ ih => rw [documentValue?, documentValues?_of_forall ih, Option.map_some]
  | table _ keys _ ih =>
    rw [documentValue?.eq_def]
    simp only [if_neg (firstKey?_ne keys), documentEntries?_of_forall ih, Option.map_some]

/-- Texts per platform are read from fields that hold them under the names of the platforms. -/
theorem perPlatform?_of_fields {fields : List (String × Value)} {texts : PerPlatform}
    (hlinux : Value.field? "linux" fields = texts.linux.map .text)
    (hmacos : Value.field? "macos" fields = texts.macos.map .text)
    (hwindows : Value.field? "windows" fields = texts.windows.map .text) :
    perPlatform? format (.table fields) = some texts := by
  have hread {key : String} {text : Option String}
      (h : Value.field? key fields = text.map .text) :
      optional nullableText? none key fields = some text := by
    rw [optional, h]
    cases text <;> rfl
  simp only [perPlatform?, fields?, entries?, Option.bind_eq_bind, Option.bind_some,
    hread hlinux, hread hmacos, hread hwindows]
  rfl

theorem field?_platformEntries (texts : PerPlatform) :
    Value.field? "linux" (Encode.platformEntries texts) = texts.linux.map .text ∧
      Value.field? "macos" (Encode.platformEntries texts) = texts.macos.map .text ∧
      Value.field? "windows" (Encode.platformEntries texts) = texts.windows.map .text := by
  simp [Encode.platformEntries, Value.field?_append, Value.field?_optionalText_self,
    Value.field?_optionalText_of_ne]

theorem perPlatform?_encode (texts : PerPlatform) :
    perPlatform? format (Encode.perPlatform texts) = some texts := by
  obtain ⟨hlinux, hmacos, hwindows⟩ := field?_platformEntries texts
  exact perPlatform?_of_fields hlinux hmacos hwindows

theorem commandText?_encode (text : CommandText) :
    commandText? (Encode.commandText text) = some text := by
  obtain ⟨hlinux, hmacos, hwindows⟩ := field?_platformEntries text.specific
  have hspecific : perPlatform? .toml (Encode.commandText text) = some text.specific := by
    refine perPlatform?_of_fields ?_ ?_ ?_ <;>
      rw [Value.field?_cons_of_ne _ (by decide)] <;> assumption
  have hdefault : required text? "default" (("default", .text text.default) ::
      Encode.platformEntries text.specific) = some text.default := by
    rw [required, Value.field?_cons_self]
    rfl
  rw [Encode.commandText] at hspecific ⊢
  simp only [commandText?, entries?, Option.bind_eq_bind, Option.bind_some, hdefault, hspecific]
  rfl

theorem event?_encode {config : EventConfig} (h : config.Portable) :
    event? format (Encode.event config) = some config := by
  have hextras : (("enabled", Value.bool config.enabled) :: config.extras.entries).filter
      (fun e => e.1 ≠ "enabled") = config.extras.entries := by
    rw [List.filter_cons_of_neg (by simp), List.filter_eq_self]
    exact fun e he => decide_eq_true (h.keys e he).1
  have hdocument : documentEntries? format config.extras.entries = some config.extras.entries :=
    documentEntries?_of_forall fun e he => documentValue?_of_plain (h.values e he)
  have henabled : optional bool? false "enabled"
      (("enabled", .bool config.enabled) :: config.extras.entries) = some config.enabled := by
    rw [optional, Value.field?_cons_self]
    rfl
  simp only [event?, Encode.event, entries?, Option.bind_eq_bind, Option.bind_some, hextras,
    hdocument, henabled, SortedMap.ofList_entries]
  rfl

theorem preaction?_encode (config : PreactionConfig) :
    preaction? format (Encode.preaction config) = some config := by
  obtain ⟨enabled, id⟩ := config
  rfl

theorem fallback?_encode (fallback : Fallback) :
    fallback? (Encode.fallback fallback) = some fallback := by
  cases fallback <;> rfl

theorem customVariable?_encode (record : CustomVariable) :
    customVariable? format (Encode.customVariable record) = some record := rfl

theorem promptField?_encode (field : PromptField) :
    promptField? format (Encode.promptField field) = some field := rfl

theorem prompt?_encode (config : PromptConfig) :
    prompt? format (Encode.prompt config) = some config := by
  have hfields : list? (promptField? format) (.list (config.fields.map Encode.promptField)) =
      some config.fields := list?_of_forall fun field _ => promptField?_encode field
  simp [prompt?, Encode.prompt, fields?, entries?, required, optional, Value.field?, text?, hfields]

theorem int32?_integer {n : Int} (hlow : -0x80000000 ≤ n) (hhigh : n < 0x80000000) :
    int32? (.integer n) = some n := by
  rw [int32?, if_pos (by simp [hlow, hhigh])]

theorem command?_encode {config : CommandConfig} (h : config.Portable) :
    command? format (Encode.command config) = some config := by
  have hcodes : list? int32? (.list (config.ignoreErrorCodes.map .integer)) =
      some config.ignoreErrorCodes :=
    list?_of_forall fun n hn => int32?_integer (h.codes n hn).1 (h.codes n hn).2
  have hpreactions : list? (preaction? format) (.list (config.preactions.map Encode.preaction)) =
      some config.preactions := list?_of_forall fun p _ => preaction?_encode p
  have hevents : map? (event? format) (Encode.map Encode.event config.events) =
      some config.events := map?_of_forall fun e he => event?_encode (h.events e he)
  have hfallbacks : map? fallback? (Encode.map Encode.fallback config.fallbacks) =
      some config.fallbacks := map?_of_forall fun e _ => fallback?_encode e.2
  simp [command?, Encode.command, fields?, entries?, required, optional, Value.field?, text?, bool?,
    hcodes, hpreactions, hevents, hfallbacks, commandText?_encode, perPlatform?_encode]

theorem settings?_encode {s : Settings} (h : s.Portable) :
    settings? format (Encode.settings s) = some s := by
  have hvariables : list? (customVariable? format)
      (.list (s.customVariables.map Encode.customVariable)) = some s.customVariables :=
    list?_of_forall fun record _ => customVariable?_encode record
  have hprompts : list? (prompt? format) (.list (s.prompts.map Encode.prompt)) = some s.prompts :=
    list?_of_forall fun config _ => prompt?_encode config
  have hcommands : list? (command? format) (.list (s.commands.map Encode.command)) =
      some s.commands := list?_of_forall fun config hconfig => command?_encode (h config hconfig)
  simp [settings?, Encode.settings, fields?, entries?, optional, Value.field?, hvariables, hprompts,
    hcommands, perPlatform?_encode]

end Decode

/-! ### Plain data -/

namespace Encode

/-- A record is plain if its fields have different names and are plain. -/
theorem record_plain {fields : List (String × Value)} (hnodup : (fields.map Prod.fst).Nodup)
    (h : ∀ e ∈ fields, e.2.Plain fun _ => True) : (Value.table fields).Plain fun _ => True :=
  .table hnodup (fun _ _ => trivial) h

theorem list_plain {α : Type} {f : α → Value} {items : List α}
    (h : ∀ x ∈ items, (f x).Plain fun _ => True) :
    (Value.list (items.map f)).Plain fun _ => True :=
  .list (List.forall_mem_map.2 h)

theorem map_plain {α : Type} {f : α → Value} {m : SortedMap α}
    (h : ∀ e ∈ m.entries, (f e.2).Plain fun _ => True) : (map f m).Plain fun _ => True := by
  refine record_plain ?_ (List.forall_mem_map.2 h)
  rw [List.map_map]
  exact m.nodup_keys

/-- What is held under the names of platforms are texts. -/
theorem exists_text_of_mem_platformEntries {texts : PerPlatform} {e : String × Value}
    (he : e ∈ platformEntries texts) : ∃ s, e.2 = .text s := by
  have htext {key : String} {text : Option String} (hmem : e ∈ optionalText key text) :
      ∃ s, e.2 = .text s := by
    cases text with
    | none => simp [optionalText] at hmem
    | some s =>
      obtain rfl : e = (key, .text s) := by simpa [optionalText] using hmem
      exact ⟨s, rfl⟩
  rw [platformEntries, List.mem_append, List.mem_append] at he
  rcases he with (he | he) | he <;> exact htext he

theorem plain_of_mem_platformEntries {texts : PerPlatform} {e : String × Value}
    (he : e ∈ platformEntries texts) : e.2.Plain fun _ => True := by
  obtain ⟨s, hs⟩ := exists_text_of_mem_platformEntries he
  rw [hs]
  exact .text s

/-- The names of platforms for which there are texts. -/
theorem map_fst_platformEntries_sublist (texts : PerPlatform) :
    ((platformEntries texts).map Prod.fst).Sublist ["linux", "macos", "windows"] := by
  have hone (key : String) (text : Option String) :
      ((optionalText key text).map Prod.fst).Sublist [key] := by
    cases text <;> simp [optionalText]
  rw [platformEntries, List.map_append, List.map_append]
  exact ((hone "linux" _).append (hone "macos" _)).append (hone "windows" _)

theorem perPlatform_plain (texts : PerPlatform) : (perPlatform texts).Plain fun _ => True :=
  record_plain ((map_fst_platformEntries_sublist texts).nodup (by decide))
    fun _ he => plain_of_mem_platformEntries he

theorem commandText_plain (text : CommandText) : (commandText text).Plain fun _ => True := by
  have hkeys := (map_fst_platformEntries_sublist text.specific).cons_cons "default"
  refine record_plain (hkeys.nodup (by decide)) (List.forall_mem_cons.2 ⟨.text _, ?_⟩)
  exact fun e he => plain_of_mem_platformEntries he

theorem event_plain {config : EventConfig} (h : config.Portable) :
    (event config).Plain fun _ => True := by
  refine record_plain (List.nodup_cons.2 ⟨?_, config.extras.nodup_keys⟩)
    (List.forall_mem_cons.2 ⟨.bool _, fun e he => (h.values e he).mono fun _ _ => trivial⟩)
  intro hmem
  obtain ⟨e, he, hkey⟩ := List.mem_map.1 hmem
  exact (h.keys e he).1 hkey

theorem preaction_plain (config : PreactionConfig) : (preaction config).Plain fun _ => True := by
  obtain ⟨enabled, id⟩ := config
  exact record_plain (by simp) (by simp [Value.Plain.bool, Value.Plain.text])

theorem fallback_plain (fallback : Fallback) : (Encode.fallback fallback).Plain fun _ => True := by
  cases fallback <;> exact record_plain (by simp) (by simp [Value.Plain.text])

theorem customVariable_plain (record : CustomVariable) :
    (customVariable record).Plain fun _ => True :=
  record_plain (by simp) (by simp [Value.Plain.text])

theorem promptField_plain (field : PromptField) : (promptField field).Plain fun _ => True :=
  record_plain (by simp) (by simp [Value.Plain.bool, Value.Plain.text])

theorem prompt_plain (config : PromptConfig) : (prompt config).Plain fun _ => True :=
  record_plain (by simp)
    (by simp [Value.Plain.text, list_plain fun field _ => promptField_plain field])

theorem command_plain {config : CommandConfig} (h : config.Portable) :
    (command config).Plain fun _ => True := by
  have hcodes : (Value.list (config.ignoreErrorCodes.map .integer)).Plain fun _ => True :=
    list_plain fun n hn => by
      obtain ⟨hlow, hhigh⟩ := h.codes n hn
      exact .integer (by omega) (by omega)
  refine record_plain (by simp) ?_
  simp only [List.forall_mem_cons]
  exact ⟨.text _, commandText_plain _, .text _, perPlatform_plain _, .bool _, hcodes,
    list_plain fun p _ => preaction_plain p, map_plain fun e he => event_plain (h.events e he),
    map_plain fun e _ => fallback_plain e.2, List.forall_mem_nil _⟩

theorem settings_plain {s : Settings} (h : s.Portable) :
    (settings s).Plain fun _ => True := by
  refine record_plain (by simp) ?_
  simp only [List.forall_mem_cons]
  exact ⟨perPlatform_plain _, list_plain fun record _ => customVariable_plain record,
    list_plain fun config _ => prompt_plain config,
    list_plain fun config hconfig => command_plain (h config hconfig), List.forall_mem_nil _⟩

/-! ### Depth -/

section Depth

variable {n : Nat}

theorem list_depth_le {α : Type} {f : α → Value} {items : List α} :
    (Value.list (items.map f)).depth ≤ n + 1 ↔ ∀ x ∈ items, (f x).depth ≤ n := by
  rw [Value.depth, Nat.add_le_add_iff_right, Value.itemsDepth_le, List.forall_mem_map]

theorem record_depth_le {fields : List (String × Value)} :
    (Value.table fields).depth ≤ n + 1 ↔ ∀ e ∈ fields, e.2.depth ≤ n := by
  rw [Value.depth, Nat.add_le_add_iff_right, Value.entriesDepth_le]

theorem map_depth_le {α : Type} {f : α → Value} {m : SortedMap α} :
    (map f m).depth ≤ n + 1 ↔ ∀ e ∈ m.entries, (f e.2).depth ≤ n := by
  rw [map, record_depth_le, List.forall_mem_map]

theorem depth_le_of_mem_platformEntries {texts : PerPlatform} {e : String × Value}
    (he : e ∈ platformEntries texts) : e.2.depth ≤ n := by
  obtain ⟨s, hs⟩ := exists_text_of_mem_platformEntries he
  simp [hs]

theorem perPlatform_depth_le (texts : PerPlatform) : (perPlatform texts).depth ≤ n + 1 :=
  record_depth_le.2 fun _ he => depth_le_of_mem_platformEntries he

theorem commandText_depth_le (text : CommandText) : (commandText text).depth ≤ n + 1 :=
  record_depth_le.2
    (List.forall_mem_cons.2 ⟨by simp, fun _ he => depth_le_of_mem_platformEntries he⟩)

theorem preaction_depth_le (config : PreactionConfig) : (preaction config).depth ≤ n + 1 := by
  obtain ⟨enabled, id⟩ := config
  exact record_depth_le.2 (by simp)

theorem fallback_depth_le (fallback : Fallback) : (Encode.fallback fallback).depth ≤ n + 1 := by
  cases fallback <;> exact record_depth_le.2 (by simp)

theorem customVariable_depth_le (record : CustomVariable) :
    (customVariable record).depth ≤ n + 1 :=
  record_depth_le.2 (by simp)

theorem promptField_depth_le (field : PromptField) : (promptField field).depth ≤ n + 1 :=
  record_depth_le.2 (by simp)

theorem prompt_depth_le (config : PromptConfig) : (prompt config).depth ≤ n + 3 :=
  record_depth_le.2 (by simp [list_depth_le, promptField_depth_le])

/-- An event is one level around its further settings. -/
theorem event_depth_le {config : EventConfig} :
    (event config).depth ≤ n + 1 ↔ ∀ e ∈ config.extras.entries, e.2.depth ≤ n := by
  rw [event, record_depth_le, List.forall_mem_cons]
  exact and_iff_right (by simp)

/-- A command is three levels around the further settings of its events: itself, the table of
events and each event. -/
theorem command_depth_le {config : CommandConfig} :
    (command config).depth ≤ n + 3 ↔
      ∀ event ∈ config.events.entries, ∀ e ∈ event.2.extras.entries, e.2.depth ≤ n := by
  rw [command, record_depth_le]
  simp [list_depth_le, map_depth_le, commandText_depth_le, perPlatform_depth_le,
    preaction_depth_le, fallback_depth_le, event_depth_le]

/-- Settings are two levels around their commands, and so five around the further settings of
events.  Nothing else in them is deeper than that. -/
theorem settings_depth_le {s : Settings} :
    (settings s).depth ≤ n + 5 ↔ ∀ config ∈ s.commands, ∀ event ∈ config.events.entries,
      ∀ e ∈ event.2.extras.entries, e.2.depth ≤ n := by
  rw [settings, record_depth_le]
  simp [list_depth_le, perPlatform_depth_le, customVariable_depth_le, prompt_depth_le,
    command_depth_le]

theorem settings_depth_lt (s : Settings) : (settings s).depth < Json.depthLimit ↔ s.Shallow := by
  have hle : (settings s).depth < Json.depthLimit ↔ (settings s).depth ≤ 122 + 5 :=
    Nat.lt_succ_iff
  rw [hle, settings_depth_le, Settings.Shallow]
  simp only [Json.depthLimit, Nat.lt_iff_add_one_le, Nat.reduceLeDiff]

end Depth

end Encode

/-- Event settings that look like parts of other records. -/
def EventConfig.lookalike : EventConfig where
  enabled := true
  extras := ⟨[("every", .integer (-0x8000000000000000)), ("type", .text "\x00\t\\"),
    ("when", .list [.bool false, .table [],
      .table [("default", .list [.integer 7]), ("enabled", .text "null")]])], by decide⟩

/-- Settings in which every part is there that is written or read in its own way. -/
def Settings.manySided : Settings where
  defaultShells := { macos := some "zsh" }
  customVariables := [⟨"v1", "city", "where\n\"it\" is"⟩, ⟨"v2", "land", ""⟩]
  prompts := [
    ⟨"p1", "Place", "", [⟨"City", "", "Köln", "v1", true⟩, ⟨"Land", "?", "", "v2", false⟩]⟩]
  commands := [
    { id := "c1"
      command := ⟨"echo", { linux := some "printf", windows := some "" }⟩
      shells := { linux := some "sh", macos := some "", windows := some "pwsh" }
      confirmExecution := true
      ignoreErrorCodes := [-0x80000000, 0, 0x7FFFFFFF]
      preactions := [⟨false, .prompt "p1"⟩, ⟨true, .prompt "p2"⟩]
      events := ⟨[("every-n-seconds", .lookalike), ("on-quit", {})], by decide⟩
      fallbacks := ⟨[("a", .showErrors), ("b", .emptyValue), ("c", .value "")], by decide⟩ },
    { id := "c1", command := ⟨"", {}⟩, title := "Nothing" }]

theorem EventConfig.portable_lookalike : EventConfig.lookalike.Portable := by
  have hdefault : (Value.list [.integer 7]).Plain (· ≠ Value.datetimeKey) :=
    .list (List.forall_mem_singleton.2 (.integer (by decide) (by decide)))
  have htable : (Value.table [("default", .list [.integer 7]), ("enabled", .text "null")]).Plain
      (· ≠ Value.datetimeKey) :=
    .table (by decide) (by decide) (by simp [hdefault, Value.Plain.text])
  have hempty : (Value.table []).Plain (· ≠ Value.datetimeKey) :=
    .table (by decide) (by decide) (by simp)
  refine ⟨by decide, ?_⟩
  simp only [lookalike, List.forall_mem_cons]
  refine ⟨.integer (by decide) (by decide), .text _, .list ?_, List.forall_mem_nil _⟩
  simp only [List.forall_mem_cons]
  exact ⟨.bool _, hempty, htable, List.forall_mem_nil _⟩

/-- A number of lists around an empty one. -/
def Value.nested : Nat → Value
  | 0 => .list []
  | n + 1 => .list [nested n]

theorem Value.nested_plain {allowed : String → Prop} (n : Nat) : (nested n).Plain allowed := by
  induction n with
  | zero => exact .list (List.forall_mem_nil _)
  | succ n ih => exact .list (List.forall_mem_singleton.2 ih)

theorem Value.nested_depth (n : Nat) : (nested n).depth = n + 1 := by
  induction n with
  | zero => rw [nested, depth, itemsDepth]
  | succ n ih => rw [nested, depth, itemsDepth, itemsDepth, ih, Nat.max_zero]

/-- Settings in which an event has a setting of 123 levels. -/
def Settings.deep : Settings where
  commands := [
    { id := "c", command := ⟨"", {}⟩
      events := ⟨[("file-menu", { extras := ⟨[("v", .nested 122)], by decide⟩ })], by decide⟩ }]

end CommandTemplates
