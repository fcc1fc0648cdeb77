import Throttle.Settings.Basic
import Throttle.Toml.Document

/-!
# Settings from TOML

A TOML document becomes a settings table directly: strings, integers, floats and
booleans stand for themselves, a date-time for its canonical text, and arrays, tables
and arrays of tables for lists and tables.
-/

namespace Throttle

mutual

/-- A TOML value as a setting from `origin`. -/
def Toml.Value.toSetting (origin : Option String) : Toml.Value → Setting
  | .str s => .str origin s
  | .int i => .int origin i
  | .float x => .float origin x
  | .bool b => .bool origin b
  | .datetime d => .str origin d.render
  | .array items => .list origin (Toml.Value.itemsToSettings origin items)
  | .table _ entries => .table origin (Toml.Value.entriesToSettings origin entries)
  | .tables items => .list origin (Toml.Value.itemsToSettings origin items)

/-- The items of an array as settings. -/
def Toml.Value.itemsToSettings (origin : Option String) : List Toml.Value → List Setting
  | [] => []
  | v :: rest => v.toSetting origin :: Toml.Value.itemsToSettings origin rest

/-- The entries of a table as settings. -/
def Toml.Value.entriesToSettings (origin : Option String) :
    List (String × Toml.Value) → List (String × Setting)
  | [] => []
  | (k, v) :: rest => (k, v.toSetting origin) :: Toml.Value.entriesToSettings origin rest

end

/-- The settings of a TOML file named `uri`. -/
def Setting.ofToml (uri : String) (text : String) :
    Except SettingsError (List (String × Setting)) := do
  let entries ← (Toml.parse text).mapError (SettingsError.fileParse uri)
  pure (Toml.Value.entriesToSettings (some uri) entries)

end Throttle
