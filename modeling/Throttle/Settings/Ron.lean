import Throttle.Settings.Yaml
import Throttle.Ron.Reader

/-!
# Settings from RON

A RON value becomes a setting directly: `None`, `()` and a bare name are null, `Some(v)`
is `v`, a character is a one-character string, lists and tuples are lists, and maps and
structs are tables. A map's keys must be strings or characters.

A map keeps one entry per key, in the order of its keys: booleans, characters, maps,
numbers, options, strings, lists, then the unit value, each kind in its own order. The
entries are converted in that order, and the first key that is not a string or a
character is the error.
-/

namespace Throttle

namespace Ron

/-- The place of a value's kind in the order of map keys. -/
def Value.rank : Value → Nat
  | .bool _ => 0
  | .char _ => 1
  | .map _ => 2
  | .int _ => 3
  | .float _ => 3
  | .none => 4
  | .some _ => 4
  | .string _ => 5
  | .seq _ => 6
  | .unit => 7

/-- Whether key `a` comes before key `b`. -/
def Value.before (a b : Value) : Bool :=
  match a, b with
  | .bool x, .bool y => !x && y
  | .char x, .char y => x < y
  | .int x, .int y => x < y
  | .int _, .float _ => true
  | .float x, .float y => x.lt y
  | .none, .some _ => true
  | .string x, .string y => x < y
  | _, _ => a.rank < b.rank

/-- Whether two keys are the same key. -/
def Value.sameKey (a b : Value) : Bool :=
  match a, b with
  | .bool x, .bool y => x == y
  | .char x, .char y => x == y
  | .int x, .int y => x == y
  | .float x, .float y => (x.isNaN && y.isNaN) || x.eqv y
  | .none, .none => true
  | .string x, .string y => x == y
  | .unit, .unit => true
  | _, _ => false

/-- Put an entry into entries ordered by key: a later entry of the same key replaces
the value of the earlier one. -/
def insertEntry {α : Type} (k : Value) (v : α) : List (Value × α) → List (Value × α)
  | [] => [(k, v)]
  | (k', v') :: rest =>
    if k.sameKey k' then (k', v) :: rest
    else if k.before k' then (k, v) :: (k', v') :: rest
    else (k', v') :: insertEntry k v rest

/-- How a key that is not a string is named in the error. -/
def Value.found : Value → String
  | .bool b => "the boolean `" ++ toString b ++ "`"
  | .int i => "the signed integer `" ++ toString i ++ "`"
  | .float x => "the floating point number `" ++ messageLayout.render x ++ "`"
  | .none | .some _ => "an optional value"
  | .unit => "a unit value"
  | .seq _ => "a sequence"
  | .map _ => "a map"
  | .char c => "the UTF-8 character `" ++ c.toString ++ "`"
  | .string s => "the string " ++ Text.quote s

/-- A map key as a string. -/
def Value.keyText : Value → Except String String
  | .string s => pure s
  | .char c => pure c.toString
  | k => throw ("Expected a string but found " ++ k.found ++ " instead")

/-- Entries ordered by key, with each key read as a string before its value's
setting. -/
def readEntries (entries : List (Value × Except String Setting)) :
    Except String (List (String × Setting)) := do
  let sorted := entries.foldl (fun acc (k, v) => insertEntry k v acc) []
  sorted.mapM fun (k, v) => do
    let key ← k.keyText
    let s ← v
    pure (key, s)

mutual

/-- A value as a setting from `origin`. -/
def Value.toSetting (origin : Option String) : Value → Except String Setting
  | .bool b => pure (.bool origin b)
  | .char c => pure (.str origin c.toString)
  | .map entries => do
    let es ← readEntries (Value.entriesToSettings origin entries)
    pure (.table origin (es.foldl (fun acc (k, v) => Setting.putEntry k v acc) []))
  | .int i => pure (.int origin i)
  | .float x => pure (.float origin x)
  | .none => pure (.nil origin)
  | .some v => v.toSetting origin
  | .string s => pure (.str origin s)
  | .seq items => do
    let ss ← Value.itemsToSettings origin items
    pure (.list origin ss)
  | .unit => pure (.nil origin)

/-- The items of a list as settings. -/
def Value.itemsToSettings (origin : Option String) : List Value → Except String (List Setting)
  | [] => pure []
  | v :: rest => do
    let s ← v.toSetting origin
    let ss ← Value.itemsToSettings origin rest
    pure (s :: ss)

/-- The entries of a map with their values as settings, or why they are not. -/
def Value.entriesToSettings (origin : Option String) :
    List (Value × Value) → List (Value × Except String Setting)
  | [] => []
  | (k, v) :: rest => (k, v.toSetting origin) :: Value.entriesToSettings origin rest

end

end Ron

/-- The settings of a RON file named `uri`. -/
def Setting.ofRon (uri : String) (text : String) :
    Except SettingsError (List (String × Setting)) := do
  let v ← (Ron.parse text).mapError (SettingsError.fileParse uri)
  let root ← (v.toSetting (some uri)).mapError (SettingsError.fileParse uri)
  Setting.rootEntries uri root

end Throttle
