import Throttle.Settings.Yaml
import Throttle.Json.Reader

/-!
# Settings from JSON

A JSON file becomes settings directly: an integer that fits 64 signed bits is an
integer, any other number a float, and objects are tables. The file must hold an object.
-/

namespace Throttle

mutual

/-- A JSON value as a setting from `origin`. -/
def Json.Value.toSetting (origin : Option String) : Json.Value → Setting
  | .null => .nil origin
  | .bool b => .bool origin b
  | .int i => if i < Int.pow 2 63 then .int origin i else .float origin (Binary64.ofInt i)
  | .float x => .float origin x
  | .str s => .str origin s
  | .arr items => .list origin (Json.Value.itemsToSettings origin items)
  | .obj fields => .table origin (Json.Value.fieldsToSettings origin fields)

/-- The items of an array as settings. -/
def Json.Value.itemsToSettings (origin : Option String) : List Json.Value → List Setting
  | [] => []
  | v :: rest => v.toSetting origin :: Json.Value.itemsToSettings origin rest

/-- The fields of an object as table entries. -/
def Json.Value.fieldsToSettings (origin : Option String) :
    List (String × Json.Value) → List (String × Setting)
  | [] => []
  | (k, v) :: rest => (k, v.toSetting origin) :: Json.Value.fieldsToSettings origin rest

end

/-- The settings of a JSON file named `uri`. -/
def Setting.ofJson (uri : String) (text : String) : Except SettingsError (List (String × Setting)) := do
  let v ← (Json.read text).mapError fun e => SettingsError.fileParse uri (e.describe text)
  Setting.rootEntries uri (v.toSetting (some uri))

end Throttle
