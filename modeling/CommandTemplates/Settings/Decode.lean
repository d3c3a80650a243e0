/-
Settings read from data.

A record is a table of its fields; keys that are no fields are passed over.  A
list gives the fields of a record in their order.  A field that is missing has
its default, and only texts per platform may be null.  Event settings and
preactions are tables only, as they keep, or are told apart by, further keys.

The two text formats differ where a list is longer than its record (only a
settings document may have surplus items) and in the numbers that they know.
-/
import CommandTemplates.Data.Toml.Document
import CommandTemplates.Settings.Basic

namespace CommandTemplates

/-- The text formats that settings come in. -/
inductive TextFormat where
  | toml
  | json
  deriving DecidableEq, Repr

namespace Decode

/-- A text. -/
def text? : Value → Option String
  | .text s => some s
  | _ => none

/-- A text, or null for none. -/
def nullableText? : Value → Option (Option String)
  | .null => some none
  | .text s => some (some s)
  | _ => none

/-- A truth value. -/
def bool? : Value → Option Bool
  | .bool b => some b
  | _ => none

/-- An integer that 32 bits can hold. -/
def int32? : Value → Option Int
  | .integer n => if -0x80000000 ≤ n && n < 0x80000000 then some n else none
  | _ => none

/-- A list. -/
def list? {α : Type} (f : Value → Option α) : Value → Option (List α)
  | .list items => items.mapM f
  | _ => none

/-- The entries of a table; a date is a table with one key. -/
def entries? : Value → Option (List (String × Value))
  | .table entries => some entries
  | .datetime s => some [(Value.datetimeKey, .text s)]
  | _ => none

/-- A map from texts. -/
def map? {α : Type} (f : Value → Option α) (v : Value) : Option (SortedMap α) := do
  let entries ← entries? v
  let decoded ← entries.mapM fun (key, v) => (f v).map (key, ·)
  return .ofList decoded

/-- The fields of a record, by name. -/
def fields? (format : TextFormat) (names : List String) : Value → Option (List (String × Value))
  | .list items =>
    if format = .json && names.length < items.length then none else some (names.zip items)
  | v => entries? v

/-- A field that must be there. -/
def required {α : Type} (f : Value → Option α) (key : String)
    (fields : List (String × Value)) : Option α :=
  (Value.field? key fields).bind f

/-- A field that has a default. -/
def optional {α : Type} (f : Value → Option α) (default : α) (key : String)
    (fields : List (String × Value)) : Option α :=
  match Value.field? key fields with
  | some v => f v
  | none => some default

/-- Texts per platform. -/
def perPlatform? (format : TextFormat) (v : Value) : Option PerPlatform := do
  let fields ← fields? format ["linux", "macos", "windows"] v
  return {
    linux := ← optional nullableText? none "linux" fields
    macos := ← optional nullableText? none "macos" fields
    windows := ← optional nullableText? none "windows" fields }

/-- The text of a command: a plain text, or a record; a list must have all fields of it. -/
def commandText? (v : Value) : Option CommandText :=
  match v with
  | .text s => some ⟨s, {}⟩
  | .list [default, linux, macos, windows] => do
    return ⟨← text? default,
      ⟨← nullableText? linux, ← nullableText? macos, ← nullableText? windows⟩⟩
  | .list _ => none
  | v => do
    let fields ← entries? v
    return ⟨← required text? "default" fields, ← perPlatform? .toml v⟩

/-- The least key of a list of entries. -/
def leastKey? (entries : List (String × Value)) : Option String :=
  entries.foldl (fun least e => match least with
    | some key => if e.1 < key then some e.1 else some key
    | none => some e.1) none

/-- The key of a table that is looked at first. -/
def firstKey? (format : TextFormat) (entries : List (String × Value)) : Option String :=
  match format with
  | .toml => entries.head?.map Prod.fst
  | .json => leastKey? entries

mutual

/-- Data that a settings document can hold: no nulls, integers of 64 bits, and dates where a table
starts with the key of dates. -/
def documentValue? (format : TextFormat) : Value → Option Value
  | .null => none
  | .integer n => Toml.integer? n
  | .list items => (documentValues? format items).map .list
  | .table entries =>
    if firstKey? format entries = some Value.datetimeKey then
      match entries with
      | [(_, .text s)] => (Toml.datetime? s).map .datetime
      | _ => none
    else (documentEntries? format entries).map .table
  | .bool b => some (.bool b)
  | .float x => some (.float x)
  | .text s => some (.text s)
  | .datetime s => some (.datetime s)

/-- The items of a list, as a settings document can hold them. -/
def documentValues? (format : TextFormat) : List Value → Option (List Value)
  | [] => some []
  | v :: rest => do return (← documentValue? format v) :: (← documentValues? format rest)

/-- The entries of a table, as a settings document can hold them. -/
def documentEntries? (format : TextFormat) :
    List (String × Value) → Option (List (String × Value))
  | [] => some []
  | (key, v) :: rest => do
    return (key, ← documentValue? format v) :: (← documentEntries? format rest)

end

/-- The settings of an event: `enabled`, and every other key as it is. -/
def event? (format : TextFormat) (v : Value) : Option EventConfig := do
  let fields ← entries? v
  let extras ← documentEntries? format (fields.filter fun e => e.1 ≠ "enabled")
  return { enabled := ← optional bool? false "enabled" fields, extras := .ofList extras }

/-- The type of a preaction, by name or, in JSON, by its number. -/
def isPromptType (format : TextFormat) : Value → Bool
  | .text s => s = "prompt"
  | .integer n => format = .json && n = 0
  | _ => false

/-- A preaction. -/
def preaction? (format : TextFormat) (v : Value) : Option PreactionConfig := do
  let fields ← entries? v
  let kind ← Value.field? "type" fields
  if isPromptType format kind then
    return {
      enabled := ← optional bool? true "enabled" fields
      kind := .prompt (← required text? "prompt_id" fields) }
  else none

/-- What stands in for a variable: a table with a type, or a list that starts with it. -/
def fallback? : Value → Option Fallback
  | .list [.text kind] =>
    if kind = "show-errors" then some .showErrors
    else if kind = "empty-value" then some .emptyValue
    else none
  | .list [.text kind, v] => if kind = "value" then (text? v).map .value else none
  | .table entries => do
    let kind ← required text? "type" entries
    if kind = "show-errors" then some .showErrors
    else if kind = "empty-value" then some .emptyValue
    else if kind = "value" then (required text? "value" entries).map .value
    else none
  | _ => none

/-- A command. -/
def command? (format : TextFormat) (v : Value) : Option CommandConfig := do
  let fields ← fields? format
    ["id", "command", "alias", "shells", "confirm_execution", "ignore_error_codes",
      "preactions", "events", "variable_default_values"] v
  return {
    id := ← required text? "id" fields
    command := ← required commandText? "command" fields
    title := ← optional text? "" "alias" fields
    shells := ← optional (perPlatform? format) {} "shells" fields
    confirmExecution := ← optional bool? false "confirm_execution" fields
    ignoreErrorCodes := ← optional (list? int32?) [] "ignore_error_codes" fields
    preactions := ← optional (list? (preaction? format)) [] "preactions" fields
    events := ← optional (map? (event? format)) .empty "events" fields
    fallbacks := ← optional (map? fallback?) .empty "variable_default_values" fields }

/-- A custom variable. -/
def customVariable? (format : TextFormat) (v : Value) : Option CustomVariable := do
  let fields ← fields? format ["id", "name", "description"] v
  return {
    id := ← required text? "id" fields
    name := ← required text? "name" fields
    description := ← optional text? "" "description" fields }

/-- A question of a prompt. -/
def promptField? (format : TextFormat) (v : Value) : Option PromptField := do
  let fields ← fields? format
    ["label", "description", "default_value", "target_variable", "required"] v
  return {
    label := ← required text? "label" fields
    description := ← optional text? "" "description" fields
    defaultValue := ← optional text? "" "default_value" fields
    target := ← required text? "target_variable" fields
    required := ← optional bool? false "required" fields }

/-- A prompt. -/
def prompt? (format : TextFormat) (v : Value) : Option PromptConfig := do
  let fields ← fields? format ["id", "title", "description", "fields"] v
  return {
    id := ← required text? "id" fields
    title := ← required text? "title" fields
    description := ← optional text? "" "description" fields
    fields := ← optional (list? (promptField? format)) [] "fields" fields }

/-- Settings. -/
def settings? (format : TextFormat) (v : Value) : Option Settings := do
  let fields ← fields? format
    ["default_shells", "custom_variables", "prompts", "shell_commands"] v
  return {
    defaultShells := ← optional (perPlatform? format) {} "default_shells" fields
    customVariables := ← optional (list? (customVariable? format)) [] "custom_variables" fields
    prompts := ← optional (list? (prompt? format)) [] "prompts" fields
    commands := ← optional (list? (command? format)) [] "shell_commands" fields }

/-- A platform by its name; a table may hold the name as its only key, with null. -/
def platform? : Value → Option Platform
  | .text name => Platform.ofName? name
  | .table [(name, .null)] => Platform.ofName? name
  | _ => none

end Decode

end CommandTemplates
