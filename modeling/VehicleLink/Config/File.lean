import VehicleLink.Config.Setting
import VehicleLink.Toml.Document

/-!
# Configuration files

A configuration file is a TOML document whose top-level keys name the settings.
-/

namespace VehicleLink

namespace Toml.Value

/-- The setting that a value inside an array is. -/
def itemSetting : Value → Setting
  | string text => .text text
  | integer n => .integer n
  | boolean b => .flag b
  | _ => .other

/-- The setting that a value is. A list is a setting only at the top, and its items are none
themselves. -/
def setting : Value → Setting
  | array items => .list (items.map itemSetting)
  | value => value.itemSetting

end Toml.Value

namespace Config

/-- Why a file is no configuration. -/
inductive FileError where
  | malformed
  | unfit (setting : UnfitSetting)
deriving DecidableEq, Repr

/-- The text of the error, with the name of the setting that does not fit. -/
def FileError.message : FileError → String
  | malformed => "not a TOML document"
  | unfit setting => "unusable value for " ++ setting.name

/-- The configuration that a text is, if it is one. -/
def ofText (text : String) : Except FileError Config :=
  match Toml.ofText? text with
  | none => .error .malformed
  | some entries =>
    (ofSettings (entries.map fun (name, value) => (name, value.setting))).mapError .unfit

end Config

end VehicleLink
