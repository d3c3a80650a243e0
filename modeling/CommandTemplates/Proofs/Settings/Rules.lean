/-
The rules between the parts of settings, and what comes of breaking them.

`KeepsRules` states the rules.  They are checked at places of the settings: at the ids of
commands, custom variables and prompts, at the codes of events and at the fields of
prompts.  `Violates` says what is wrong at a place, and `Place.Before` which of two places
comes first; none of these knows how the settings are gone through.

* `keepsRules_iff` — the rules are kept exactly if nothing is wrong at any place;
* `findsFirst_commands`, `findsFirst_customVariables`, `findsFirst_prompts` — the searches
  of the parts, and `findsFirst_violation?` that of the whole;
* `violation?_eq_none_iff`, `validate_eq_ok_iff` — no violation is found in settings that
  keep the rules, and in no others;
* `validate_exact` — settings are valid if they keep the rules, and otherwise the error
  tells of the first violation.
-/
import CommandTemplates.Proofs.Settings.Search
import CommandTemplates.Settings.Validation

namespace CommandTemplates

theorem EventKind.ofCode?_isNone_iff {code : String} :
    (ofCode? code).isNone = true ↔ ∀ kind : EventKind, kind.code ≠ code := by
  simp [ofCode?, List.find?_eq_none, mem_all]

/-! ### Rules -/

/-- Whether each event code of a command names a kind of event. -/
def CommandConfig.EventsKnown (config : CommandConfig) : Prop :=
  ∀ code ∈ config.events.keys, (EventKind.ofCode? code).isSome = true

/-- Whether each field of a prompt asks for one of some custom variables. -/
def PromptConfig.AsksAmong (targets : List VariableId) (prompt : PromptConfig) : Prop :=
  ∀ field ∈ prompt.fields, field.target ∈ targets

namespace Settings

variable {s : Settings}

/-- The rules between the parts of settings. -/
structure KeepsRules (s : Settings) : Prop where
  commands : (s.commands.map (·.id)).Nodup
  events : ∀ c ∈ s.commands, c.EventsKnown
  customVariables : (s.customVariables.map (·.id)).Nodup
  prompts : (s.prompts.map (·.id)).Nodup
  targets : ∀ p ∈ s.prompts, p.AsksAmong (s.customVariables.map (·.id))

/-! ### Places -/

/-- A place where a rule is checked: an id, by its position, or an event or field of the element at
a position. -/
inductive Place where
  | command (i : Nat)
  | event (i : Nat) (code : String)
  | customVariable (i : Nat)
  | prompt (i : Nat)
  | field (i j : Nat)
  deriving DecidableEq, Repr

namespace Place

/-- The part of the settings: the commands come first, the custom variables second and the prompts
last. -/
def part : Place → Nat
  | .command _ | .event _ _ => 0
  | .customVariable _ => 1
  | .prompt _ | .field _ _ => 2

/-- The position of the element in its part. -/
def position : Place → Nat
  | .command i | .event i _ | .customVariable i | .prompt i | .field i _ => i

/-- The order of the places of one element: its id, then its events by their codes or its fields. -/
def BeforeWithin : Place → Place → Prop
  | .command _, .event _ _ => True
  | .event _ code, .event _ code' => code < code'
  | .prompt _, .field _ _ => True
  | .field _ j, .field _ j' => j < j'
  | _, _ => False

/-- Whether a place comes before another one. -/
def Before (p q : Place) : Prop :=
  p.part < q.part ∨
    p.part = q.part ∧ (p.position < q.position ∨ p.position = q.position ∧ p.BeforeWithin q)

theorem BeforeWithin.asymm {p q : Place} (h : p.BeforeWithin q) : ¬ q.BeforeWithin p := by
  intro h'
  cases p <;> cases q <;> simp only [BeforeWithin] at h h'
  · exact String.lt_irrefl _ (String.lt_trans h h')
  · omega

theorem Before.asymm {p q : Place} (h : p.Before q) : ¬ q.Before p := by
  intro h'
  rcases h with h | ⟨hpart, h | ⟨hposition, h⟩⟩ <;>
    rcases h' with h' | ⟨hpart', h' | ⟨hposition', h'⟩⟩
  -- within one element its places decide, and otherwise the numbers do
  case inr.inr.inr.inr => exact h.asymm h'
  all_goals omega

/-- The place of a command, or of one of its events. -/
def ofCommand : Nat × Option String → Place
  | (i, none) => .command i
  | (i, some code) => .event i code

/-- The place of a prompt, or of one of its fields. -/
def ofPrompt : Nat × Option Nat → Place
  | (i, none) => .prompt i
  | (i, some j) => .field i j

theorem ofCommand_before {p q : Nat × Option String}
    (h : Prod.Lex (· < ·) (Option.lt (· < ·)) p q) : (ofCommand p).Before (ofCommand q) := by
  rw [Prod.lex_def] at h
  obtain ⟨i, _ | code⟩ := p <;> obtain ⟨i', _ | code'⟩ := q <;>
    simpa [ofCommand, Before, part, position, BeforeWithin, Option.lt] using h

theorem ofPrompt_before {p q : Nat × Option Nat}
    (h : Prod.Lex (· < ·) (Option.lt (· < ·)) p q) : (ofPrompt p).Before (ofPrompt q) := by
  rw [Prod.lex_def] at h
  obtain ⟨i, _ | j⟩ := p <;> obtain ⟨i', _ | j'⟩ := q <;>
    simpa [ofPrompt, Before, part, position, BeforeWithin, Option.lt] using h

end Place

/-- What is wrong at a place, and the error that tells of it. -/
inductive Violates (s : Settings) : Place → SettingsError → Prop
  | command {i : Nat} {c : CommandConfig} : s.commands[i]? = some c →
    c.id ∈ (s.commands.take i).map (·.id) → Violates s (.command i) (.duplicateCommand c.id)
  | event {i : Nat} {c : CommandConfig} {code : String} : s.commands[i]? = some c →
    code ∈ c.events.keys → (∀ kind : EventKind, kind.code ≠ code) →
    Violates s (.event i code) (.unknownEvent c.id code)
  | customVariable {i : Nat} {record : CustomVariable} : s.customVariables[i]? = some record →
    record.id ∈ (s.customVariables.take i).map (·.id) →
    Violates s (.customVariable i) (.duplicateVariable record.id)
  | prompt {i : Nat} {p : PromptConfig} : s.prompts[i]? = some p →
    p.id ∈ (s.prompts.take i).map (·.id) → Violates s (.prompt i) (.duplicatePrompt p.id)
  | field {i j : Nat} {p : PromptConfig} {field : PromptField} : s.prompts[i]? = some p →
    p.fields[j]? = some field → field.target ∉ s.customVariables.map (·.id) →
    Violates s (.field i j) (.unknownTarget p.id field.target)

theorem Violates.unique {place : Place} {e e' : SettingsError} (h : s.Violates place e)
    (h' : s.Violates place e') : e = e' := by
  cases h <;> cases h' <;> simp_all

/-- Keys differ exactly if no element has the key of one before it. -/
theorem nodup_map_iff {α κ : Type} {key : α → κ} {l : List α} :
    (l.map key).Nodup ↔ ∀ (i : Nat) a, l[i]? = some a → key a ∉ (l.take i).map key := by
  induction l with
  | nil => simp
  | cons a rest ih =>
    rw [List.map_cons, List.nodup_cons, ih]
    constructor
    · rintro ⟨hnew, hrest⟩ (_ | i) b hb
      · exact List.not_mem_nil
      · rw [List.take_succ_cons, List.map_cons, List.mem_cons, not_or]
        refine ⟨fun heq => hnew ?_, hrest i b hb⟩
        exact heq ▸ List.mem_map_of_mem (List.mem_of_getElem? hb)
    · intro h
      refine ⟨fun hmem => ?_, fun i b hb hmem => h (i + 1) b hb (List.mem_cons_of_mem _ hmem)⟩
      obtain ⟨b, hb, heq⟩ := List.mem_map.1 hmem
      obtain ⟨i, hi⟩ := List.getElem?_of_mem hb
      exact h (i + 1) b hi (heq ▸ List.mem_cons_self)

/-- The rules are kept exactly if there is no place where something is wrong. -/
theorem keepsRules_iff : s.KeepsRules ↔ ∀ place e, ¬ s.Violates place e := by
  constructor
  · intro h place e hviolates
    -- each kind of place breaks one of the rules, and each rule is about the places of one
    -- kind
    cases hviolates with
    | command hc hrepeats => exact nodup_map_iff.1 h.commands _ _ hc hrepeats
    | event hc hcode hunknown =>
      have hknown := h.events _ (List.mem_of_getElem? hc) _ hcode
      rw [← EventKind.ofCode?_isNone_iff, Option.isNone_iff_eq_none] at hunknown
      simp [hunknown] at hknown
    | customVariable hrecord hrepeats =>
      exact nodup_map_iff.1 h.customVariables _ _ hrecord hrepeats
    | prompt hp hrepeats => exact nodup_map_iff.1 h.prompts _ _ hp hrepeats
    | field hp hfield htarget =>
      exact htarget (h.targets _ (List.mem_of_getElem? hp) _ (List.mem_of_getElem? hfield))
  · intro h
    refine ⟨?_, fun c hc code hcode => ?_, ?_, ?_, fun p hp field hfield => ?_⟩
    · exact nodup_map_iff.2 fun _ _ hc hrepeats => h _ _ (.command hc hrepeats)
    · obtain ⟨i, hi⟩ := List.getElem?_of_mem hc
      rw [← Option.not_isNone, Bool.not_eq_true', ← Bool.not_eq_true,
        EventKind.ofCode?_isNone_iff]
      exact fun hunknown => h _ _ (.event hi hcode hunknown)
    · exact nodup_map_iff.2 fun _ _ hrecord hrepeats => h _ _ (.customVariable hrecord hrepeats)
    · exact nodup_map_iff.2 fun _ _ hp hrepeats => h _ _ (.prompt hp hrepeats)
    · obtain ⟨i, hi⟩ := List.getElem?_of_mem hp
      obtain ⟨j, hj⟩ := List.getElem?_of_mem hfield
      by_contra htarget
      exact h _ _ (.field hi hj htarget)

/-! ### Searches of the settings -/

/-- The codes of events are gone through in their order. -/
theorem findsFirst_unknownCode? (c : CommandConfig) :
    FindsFirst (fun code e => code ∈ c.events.keys ∧ (∀ kind : EventKind, kind.code ≠ code) ∧
        e = SettingsError.unknownEvent c.id code) (· < ·)
      ((unknownCode? c).map (.unknownEvent c.id)) := by
  refine (findsFirst_find?_of_pairwise c.events.keys_pairwise _ _).congr fun code e => ?_
  rw [EventKind.ofCode?_isNone_iff]

theorem findsFirst_commands (s : Settings) :
    FindsFirst (fun place e => place.part = 0 ∧ s.Violates place e) Place.Before
      (commandViolation? [] s.commands) := by
  -- the keys are the ids, and the details of a command are the codes of its events
  have hcheck := findsFirst_check CommandConfig.id (fun c => SettingsError.duplicateCommand c.id) _
    commandViolation? (fun _ => rfl)
    (fun seen c rest => by rw [commandViolation?]; cases unknownCode? c <;> rfl)
    findsFirst_unknownCode? [] s.commands
  refine (hcheck.map Place.ofCommand fun _ _ => Place.ofCommand_before).congr fun place e => ?_
  constructor
  · rintro ⟨hpart, hviolates⟩
    cases hviolates with
    | command hc hrepeats => exact ⟨(_, none), rfl, _, hc, hrepeats, rfl⟩
    | event hc hcode hunknown => exact ⟨(_, some _), rfl, _, hc, hcode, hunknown, rfl⟩
    | _ => simp [Place.part] at hpart
  · rintro ⟨⟨i, _ | code⟩, rfl, hfaulty⟩
    · obtain ⟨c, hc, hrepeats, rfl⟩ := hfaulty
      exact ⟨rfl, .command hc hrepeats⟩
    · obtain ⟨c, hc, hcode, hunknown, rfl⟩ := hfaulty
      exact ⟨rfl, .event hc hcode hunknown⟩

theorem findsFirst_customVariables (s : Settings) :
    FindsFirst (fun place e => place.part = 1 ∧ s.Violates place e) Place.Before
      (variableViolation? [] s.customVariables) := by
  -- the records have no details
  have hnothing : ∀ _ : CustomVariable, FindsFirst (fun (_ : Empty) (_ : SettingsError) => False)
      (fun _ _ => False) none := fun _ d => d.elim
  have hcheck := findsFirst_check CustomVariable.id
    (fun record => SettingsError.duplicateVariable record.id) _ variableViolation? (fun _ => rfl)
    (fun _ _ _ => rfl) hnothing [] s.customVariables
  refine (hcheck.map (fun q => Place.customVariable q.1) ?_).congr fun place e => ?_
  · rintro ⟨i, _ | d⟩ ⟨i', _ | d'⟩ hlt
    -- without details only the positions are compared
    · rw [Prod.lex_def] at hlt
      simpa [Place.Before, Place.part, Place.position, Place.BeforeWithin, Option.lt] using hlt
    all_goals exact (by assumption : Empty).elim
  constructor
  · rintro ⟨hpart, hviolates⟩
    cases hviolates with
    | customVariable hrecord hrepeats => exact ⟨(_, none), rfl, _, hrecord, hrepeats, rfl⟩
    | _ => simp [Place.part] at hpart
  · rintro ⟨⟨i, _ | d⟩, rfl, hfaulty⟩
    · obtain ⟨record, hrecord, hrepeats, rfl⟩ := hfaulty
      exact ⟨rfl, .customVariable hrecord hrepeats⟩
    · exact d.elim

theorem findsFirst_prompts (s : Settings) :
    FindsFirst (fun place e => place.part = 2 ∧ s.Violates place e) Place.Before
      (promptViolation? (s.customVariables.map (·.id)) [] s.prompts) := by
  have hfields := fun p : PromptConfig => findsFirst_find? p.fields
    (fun field => decide (field.target ∉ s.customVariables.map (·.id)))
    (fun field => SettingsError.unknownTarget p.id field.target)
  have hcheck := findsFirst_check PromptConfig.id (fun p => SettingsError.duplicatePrompt p.id) _
    (promptViolation? (s.customVariables.map (·.id))) (fun _ => rfl)
    (fun seen p rest => by
      rw [promptViolation?]
      cases p.fields.find? fun field => field.target ∉ s.customVariables.map (·.id) <;> rfl)
    hfields [] s.prompts
  refine (hcheck.map Place.ofPrompt fun _ _ => Place.ofPrompt_before).congr fun place e => ?_
  constructor
  · rintro ⟨hpart, hviolates⟩
    cases hviolates with
    | prompt hp hrepeats => exact ⟨(_, none), rfl, _, hp, hrepeats, rfl⟩
    | field hp hfield htarget =>
      exact ⟨(_, some _), rfl, _, hp, _, hfield, decide_eq_true htarget, rfl⟩
    | _ => simp [Place.part] at hpart
  · rintro ⟨⟨i, _ | j⟩, rfl, hfaulty⟩
    · obtain ⟨p, hp, hrepeats, rfl⟩ := hfaulty
      exact ⟨rfl, .prompt hp hrepeats⟩
    · obtain ⟨p, hp, field, hfield, htarget, rfl⟩ := hfaulty
      exact ⟨rfl, .field hp hfield (of_decide_eq_true htarget)⟩

/-- Each part is searched if nothing is wrong with those before it. -/
theorem findsFirst_violation? (s : Settings) :
    FindsFirst s.Violates Place.Before s.violation? := by
  have hrecords := (s.findsFirst_customVariables.or s.findsFirst_prompts) <| by
    rintro p e q e' ⟨hp, -⟩ ⟨hq, -⟩
    exact .inl (by omega)
  refine (s.findsFirst_commands.or hrecords ?_).congr fun place e => ?_
  · rintro p e q e' ⟨hp, -⟩ (⟨hq, -⟩ | ⟨hq, -⟩) <;> exact .inl (by omega)
  · have hpart : place.part = 0 ∨ place.part = 1 ∨ place.part = 2 := by
      cases place <;> simp [Place.part]
    tauto

theorem violation?_eq_none_iff : s.violation? = none ↔ s.KeepsRules := by
  rw [s.findsFirst_violation?.eq_none_iff, keepsRules_iff]

theorem validate_eq_ok_iff : s.validate = .ok () ↔ s.KeepsRules := by
  rw [← violation?_eq_none_iff, validate]
  cases s.violation? <;> simp

/-- Validation succeeds exactly if the settings keep the rules, and fails with an error exactly
if this tells of the first place where a rule is violated. -/
theorem validate_exact (s : Settings) :
    (s.validate = .ok () ↔ s.KeepsRules) ∧
      ∀ e, s.validate = .error e ↔ ∃ place, s.Violates place e ∧
        ∀ place' e', s.Violates place' e' → place' = place ∨ place.Before place' := by
  refine ⟨validate_eq_ok_iff, fun e => ?_⟩
  rw [← s.findsFirst_violation?.eq_some_iff (fun _ _ => Place.Before.asymm)
    fun _ _ _ => Violates.unique, validate]
  cases s.violation? <;> simp

end Settings

end CommandTemplates
