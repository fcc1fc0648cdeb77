import Throttle.Config.Basic
import Throttle.Settings.Json
import Throttle.Settings.Toml
import Throttle.Settings.Path
import Throttle.Settings.Ini
import Throttle.Settings.Json5
import Throttle.Settings.Ron
import Throttle.Folder

/-!
# Layered configuration

A layered configuration starts from the defaults, lays the settings of an optional file
over them, and then the environment's variables named with the prefix `GATEKEEPER__`.
The tree is then read leniently into a `Config` and validated.

The file is found by its name, or, when no file has that name, by the name with a known
extension added (`toml`, `json`, `yaml`, `yml`); its extension decides its format. A
variable `GATEKEEPER__POLICY__REQUESTS=5` sets the key path `policy.requests`: the name
is matched and cut without regard to case, and `__` separates the parts. Its value is a
boolean when it reads `true` or `false` in any case, else a 64-bit integer, else a
number, else a string.
-/

namespace Throttle

/-- The formats a settings file can have. -/
inductive SettingsFormat where
  | toml
  | json
  | yaml
  | ini
  | ron
  | json5
deriving DecidableEq, Inhabited

namespace SettingsFormat

/-- The formats in the order their extensions are tried. -/
def all : List SettingsFormat := [toml, json, yaml, ini, ron, json5]

/-- The file extensions of a format. -/
def extensions : SettingsFormat → List String
  | toml => ["toml"]
  | json => ["json"]
  | yaml => ["yaml", "yml"]
  | ini => ["ini"]
  | ron => ["ron"]
  | json5 => ["json5"]

/-- The format of an extension. -/
def ofExtension? (ext : String) : Option SettingsFormat :=
  all.find? fun f => f.extensions.contains ext

end SettingsFormat

/-- The extension of a file name: what follows its last dot, unless the name has no dot
or its only dot starts it. -/
def extensionOf? (name : String) : Option String :=
  let parts := name.splitOn "."
  match parts with
  | [] | [_] => none
  | first :: rest =>
    if first.isEmpty && rest.length == 1 then none else rest.getLast?

/-- A path written backwards without the separators and `.` parts that end it. -/
def trimPathEnd : List Char → List Char
  | '/' :: rest => trimPathEnd rest
  | '.' :: tail@('/' :: _) => trimPathEnd tail
  | cs => cs

/-- The name `name` with its extension set to `ext`: the path up to the stem of its last
part, then a dot and `ext`. The stem is the part less what follows its last dot, unless
that dot starts it. A name whose last part is empty, `.` or `..` names the folder itself
or one above it, so it has no such name in the folder. -/
def withExtension? (name ext : String) : Option String :=
  let kept := (trimPathEnd name.toList.reverse).reverse
  let part := (kept.reverse.takeWhile (· != '/')).reverse
  if part.isEmpty || part == ['.'] || part == ['.', '.'] then none
  else
    let dir := kept.take (kept.length - part.length)
    let stem := match part with
      | [] => []
      | c :: rest =>
        match rest.reverse.dropWhile (· != '.') with
        | [] => part
        | _ :: before => c :: before.reverse
    some (String.ofList (dir ++ stem) ++ "." ++ ext)

namespace Folder

/-- The file names a settings file called `name` may have, in the order they are tried. -/
def settingsNames (name : String) : List String :=
  name :: SettingsFormat.all.flatMap fun f => f.extensions.filterMap (withExtension? name)

/-- The settings file named `name` and its format. -/
def findSettings (dir : Folder) (name : String) : Except SettingsError (String × SettingsFormat) :=
  if dir.isFile name then
    match (extensionOf? name).bind SettingsFormat.ofExtension? with
    | some f => pure (name, f)
    | none => throw (.other ("configuration file \"" ++ name ++ "\" is not of a supported file format"))
  else
    let candidates := SettingsFormat.all.flatMap fun f =>
      f.extensions.filterMap fun e => (withExtension? name e).map fun n => (n, f)
    match candidates.find? fun c => dir.isFile c.1 with
    | some c => pure c
    | none => throw (.other ("configuration file \"" ++ name ++ "\" not found"))

end Folder

/-- The source of settings taken from the environment. -/
def environmentOrigin : String := "the environment"

/-- The prefix of the variables that configure, with its separator, in lower case. -/
def environmentPrefix : String := "gatekeeper__"

/-- A variable's value as a setting: a boolean, a 64-bit integer, a number or a string. -/
def Setting.ofVariable (value : String) : Setting :=
  let o := some environmentOrigin
  let l := Text.lowercase value
  if l == "true" then .bool o true
  else if l == "false" then .bool o false
  else match Yaml.wordIn 10 value.toList with
    | some i => .int o i
    | none =>
      match Binary64.ofText? value with
      | some x => .float o x
      | none => .str o value

/-- The key paths and values the environment sets. -/
def Setting.ofEnvironment (env : List (String × String)) : List (String × Setting) :=
  env.filterMap fun (name, value) =>
    let key := Text.lowercase name
    if key.startsWith environmentPrefix then
      let key := (key.drop environmentPrefix.length).toString.replace "__" "."
      some (key, Setting.ofVariable value)
    else none

/-- The settings tree of the defaults, the file `path` if given, and the environment. -/
def Setting.gather (dir : Folder) (env : List (String × String)) (path : Option String) :
    Except SettingsError Setting := do
  let root ← match path with
    | none => pure Setting.emptyTable
    | some p => do
      let (file, format) ← dir.findSettings p
      let text := match dir.read file with
        | .ok t => t
        | .error _ => ""
      let entries ← match format with
        | .toml => Setting.ofToml file text
        | .json => Setting.ofJson file text
        | .yaml => Setting.ofYaml file text
        | .ini => Setting.ofIni file text
        | .json5 => Setting.ofJson5 file text
        | .ron => Setting.ofRon file text
      pure (Setting.emptyTable.layEntries entries)
  pure (root.layEntries (Setting.ofEnvironment env))

namespace Config

/-- A discipline by name, in any case, or a one-key table naming it. -/
def algorithmOfSetting (s : Setting) : Lenient Algorithm :=
  let variant (name : String) : Lenient Algorithm :=
    match Algorithm.names.find? fun (n, _) => Text.lowercase n == Text.lowercase name with
    | some (_, a) => pure a
    | none => throw (.other ("enum Algorithm does not have variant constructor " ++ name))
  match s with
  | .str _ t => variant t
  | .table _ [(k, _)] => variant k
  | _ => throw (.other
      "value of enum Algorithm should be represented by either string or table with exactly one key")

/-- Discard what a reading gives. -/
def ignoring {α : Type} (f : Setting → Lenient α) (s : Setting) : Lenient Unit := do
  let _ ← f s

/-- A composite member. -/
def memberOfSetting (s : Setting) : Lenient MemberSpec := do
  let fs ← SettingFields.of "MemberConfig" ["name", "algorithm", "requests", "window_secs"] s
  fs.check [("name", ignoring Setting.toText), ("algorithm", ignoring algorithmOfSetting),
    ("requests", ignoring (Setting.toOption Setting.toCount)),
    ("window_secs", ignoring (Setting.toOption Setting.toCount))]
  pure ⟨← fs.required "name" Setting.toText, ← fs.required "algorithm" algorithmOfSetting,
    ← fs.withDefault "requests" none (Setting.toOption Setting.toCount),
    ← fs.withDefault "window_secs" none (Setting.toOption Setting.toCount)⟩

/-- A tier's policy. -/
def tierOfSetting (s : Setting) : Lenient TierSpec := do
  let fs ← SettingFields.of "TierConfig" ["requests", "window_secs"] s
  fs.check [("requests", ignoring Setting.toCount), ("window_secs", ignoring Setting.toCount)]
  pure ⟨← fs.required "requests" Setting.toCount, ← fs.required "window_secs" Setting.toCount⟩

/-- The limiter section. -/
def limiterOfSetting (s : Setting) : Lenient LimiterSpec := do
  let fs ← SettingFields.of "LimiterConfig"
    ["algorithm", "capacity_multiplier", "max_entries_per_key", "members"] s
  let d : LimiterSpec := {}
  pure ⟨← fs.withDefault "algorithm" d.algorithm algorithmOfSetting,
    ← fs.withDefault "capacity_multiplier" d.capacityMultiplier Setting.toNumber,
    ← fs.withDefault "max_entries_per_key" d.maxEntriesPerKey Setting.toCount,
    ← fs.withDefault "members" d.members (Setting.toList memberOfSetting)⟩

/-- The policy section. -/
def policyOfSetting (s : Setting) : Lenient PolicySpec := do
  let fs ← SettingFields.of "PolicyConfig" ["requests", "window_secs", "tiers", "fallback_tier"] s
  let d : PolicySpec := {}
  pure ⟨← fs.withDefault "requests" d.requests Setting.toCount,
    ← fs.withDefault "window_secs" d.windowSecs Setting.toCount,
    ← fs.withDefault "tiers" d.tiers (Setting.toMap tierOfSetting),
    ← fs.withDefault "fallback_tier" d.fallbackTier (Setting.toOption Setting.toText)⟩

/-- The eviction section. -/
def evictionOfSetting (s : Setting) : Lenient EvictionSpec := do
  let fs ← SettingFields.of "EvictionConfig" ["enabled", "idle_ttl_secs", "sweep_interval_secs"] s
  let d : EvictionSpec := {}
  pure ⟨← fs.withDefault "enabled" d.enabled Setting.toBool,
    ← fs.withDefault "idle_ttl_secs" d.idleTtlSecs Setting.toCount,
    ← fs.withDefault "sweep_interval_secs" d.sweepIntervalSecs Setting.toCount⟩

/-- A whole configuration from its settings tree. -/
def ofSettings (s : Setting) : Lenient Config := do
  let fs ← SettingFields.of "GatekeeperConfig" ["limiter", "policy", "eviction"] s
  let d : Config := {}
  pure ⟨← fs.withDefault "limiter" d.limiter limiterOfSetting,
    ← fs.withDefault "policy" d.policy policyOfSetting,
    ← fs.withDefault "eviction" d.eviction evictionOfSetting⟩

/-- The layered configuration: defaults, then the file `path` of the folder if given,
then the environment, validated. -/
def load (dir : Folder) (env : List (String × String)) (path : Option String) :
    Except Error Config := do
  let read : Lenient Config := do ofSettings (← Setting.gather dir env path)
  let c ← read.mapError fun e => match e with
    | .unexpectedKey => Error.abort e.message
    | e => Error.config (.source e.message)
  c.validate
  pure c

end Config

end Throttle
