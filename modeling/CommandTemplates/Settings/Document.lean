/-
Settings documents: TOML texts that hold valid settings.
-/
import CommandTemplates.Settings.Decode
import CommandTemplates.Settings.Validation

namespace CommandTemplates.Settings

/-- The settings of a document, if it is well formed and keeps the rules. -/
def parse (text : String) : Except SettingsError Settings :=
  match (Toml.parse? text).bind fun entries => Decode.settings? .toml (.table entries) with
  | some s => s.validate.map fun _ => s
  | none => .error .malformed

end CommandTemplates.Settings
