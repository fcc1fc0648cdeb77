import Throttle.Settings.Basic
import Throttle.Binary64.Read
import Throttle.Text.Case

/-!
# Reading settings leniently

Settings are read into typed values leniently, the way layered configuration is: a
count also accepts a string of digits, `true`/`on`/`yes` (1) and `false`/`off`/`no`
(0), a boolean, or a float (rounded, and clamped to the unsigned 64-bit range); a float
accepts integers, booleans and number strings; a boolean accepts numbers (non-zero is
true) and the strings `1`, `true`, `on`, `yes`, `0`, `false`, `off`, `no` in any case; a
string accepts any scalar, written out. Anything else is a type error that names the
value and, in the end, the key it sits under and its source.

Records, lists and maps have a stricter reading: a record is a table of its fields (or a
list of them in declaration order), and a value of another kind is an error worded by
the record reader itself, without a key.
-/

namespace Throttle

namespace Binary64

/-- The value rounded half away from zero to a natural number, clamped to
`[0, 2 ^ 64 - 1]`; not-a-number gives zero. -/
def roundNatClamped : Binary64 → Nat
  | nan => 0
  | inf true => 0
  | inf false => Nat.pow 2 64 - 1
  | finite true _ _ => 0
  | finite false m e =>
    let n := if 0 ≤ e then m * Nat.pow 2 e.toNat
      else (2 * m + Nat.pow 2 (-e).toNat) / (2 * Nat.pow 2 (-e).toNat)
    min n (Nat.pow 2 64 - 1)

/-- The binary64 value nearest to an integer. -/
def ofInt (i : Int) : Binary64 := if i < 0 then -(ofNat i.natAbs) else ofNat i.toNat

/-- The number as a record reader writes it: positional, with `.0` added to a finite
number written without a point. -/
def recordText (x : Binary64) : String :=
  let t := messageLayout.render x
  if x.isFinite && !t.contains '.' then t ++ ".0" else t

end Binary64

/-- A reading of settings. -/
abbrev Lenient := Except SettingsError

/-- An unsigned decimal integer below `2 ^ 64`, with an optional plus sign. -/
def unsignedDecimal? (s : String) : Option Nat :=
  let cs := match s.toList with
    | '+' :: r => r
    | r => r
  if cs.isEmpty || !cs.all Char.isDigit then none
  else
    let n := cs.foldl (fun n c => n * 10 + (c.toNat - '0'.toNat)) 0
    if n < Nat.pow 2 64 then some n else none

namespace Setting

/-- How a value is named in a type error. -/
def unexpected : Setting → String
  | nil _ => "unit value"
  | bool _ b => "boolean `" ++ toString b ++ "`"
  | int _ i => "64-bit integer `" ++ toString i ++ "`"
  | float _ x => "floating point `" ++ messageLayout.render x ++ "`"
  | str _ s => "string " ++ Text.quote s
  | list _ _ => "sequence"
  | table _ _ => "map"

/-- How a record, list or map reader names a value. -/
def unexpectedByRecord : Setting → String
  | nil _ => "unit value"
  | bool _ b => "boolean `" ++ toString b ++ "`"
  | int _ i => "integer `" ++ toString i ++ "`"
  | float _ x => "floating point `" ++ x.recordText ++ "`"
  | str _ s => "string " ++ Text.quote s
  | list _ _ => "sequence"
  | table _ _ => "map"

/-- A type error for this value. -/
def typeError (s : Setting) (expected : String) : SettingsError :=
  .type s.origin s.unexpected expected none

/-- A record reader's error for this value. -/
def recordError (s : Setting) (expected : String) : SettingsError :=
  .other ("invalid type: " ++ s.unexpectedByRecord ++ ", expected " ++ expected)

/-- An unsigned 64-bit count. -/
def toCount (s : Setting) : Lenient Nat :=
  match s with
  | int _ i =>
    if 0 ≤ i then pure i.toNat else throw (s.typeError "an unsigned 64 bit or less integer")
  | str _ t =>
    let l := Text.lowercase t
    if l == "true" || l == "on" || l == "yes" then pure 1
    else if l == "false" || l == "off" || l == "no" then pure 0
    else match unsignedDecimal? t with
      | some n => pure n
      | none => throw (s.typeError "an integer")
  | bool _ b => pure (if b then 1 else 0)
  | float _ x => pure x.roundNatClamped
  | _ => throw (s.typeError "an integer")

/-- A binary64 number. -/
def toNumber (s : Setting) : Lenient Binary64 :=
  match s with
  | float _ x => pure x
  | str _ t =>
    let l := Text.lowercase t
    if l == "true" || l == "on" || l == "yes" then pure 1
    else if l == "false" || l == "off" || l == "no" then pure 0
    else match Binary64.ofText? t with
      | some x => pure x
      | none => throw (s.typeError "a floating point")
  | int _ i => pure (Binary64.ofInt i)
  | bool _ b => pure (if b then 1 else 0)
  | _ => throw (s.typeError "a floating point")

/-- A boolean. -/
def toBool (s : Setting) : Lenient Bool :=
  match s with
  | bool _ b => pure b
  | int _ i => pure (i != 0)
  | float _ x => pure !(x.eqv 0)
  | str o t =>
    let l := Text.lowercase t
    if l == "1" || l == "true" || l == "on" || l == "yes" then pure true
    else if l == "0" || l == "false" || l == "off" || l == "no" then pure false
    else throw (.type o ("string " ++ Text.quote l) "a boolean" none)
  | _ => throw (s.typeError "a boolean")

/-- A string; other scalars are written out. -/
def toText (s : Setting) : Lenient String :=
  match s with
  | str _ t => pure t
  | bool _ b => pure (toString b)
  | int _ i => pure (toString i)
  | float _ x => pure (messageLayout.render x)
  | _ => throw (s.typeError "a string")

/-- An optional value: absent when null. -/
def toOption {α : Type} (f : Setting → Lenient α) (s : Setting) : Lenient (Option α) :=
  match s with
  | nil _ => pure none
  | s => some <$> f s

/-- The items of a list, each read with `f` under its index. -/
def toList {α : Type} (f : Setting → Lenient α) (s : Setting) : Lenient (List α) :=
  match s with
  | list _ xs => (xs.zipIdx.mapM fun (x, i) => (f x).mapError (SettingsError.underIndex i))
  | s => throw (s.recordError "a sequence")

/-- The entries of a table, each value read with `f` under its key. -/
def toMap {α : Type} (f : Setting → Lenient α) (s : Setting) : Lenient (List (String × α)) :=
  match s with
  | table _ es => es.mapM fun (k, v) => do
    pure (k, ← (f v).mapError (SettingsError.underKey k))
  | s => throw (s.recordError "a map")

end Setting

/-- The fields of a record as given: by name from a table, or by position from a list,
where a field past the list's end is absent. -/
structure SettingFields where
  record : String
  names : List String
  present : List (String × Setting)
  positional : Bool

namespace SettingFields

/-- The fields of a record value named `record` with the given field names. -/
def of (record : String) (names : List String) (s : Setting) : Lenient SettingFields :=
  match s with
  | .table _ es => pure ⟨record, names, es.filter (fun e => names.contains e.1), false⟩
  | .list _ xs => pure ⟨record, names, names.zip xs, true⟩
  | s => throw (s.recordError ("struct " ++ record))

/-- The position of a field. -/
def index (fs : SettingFields) (name : String) : Nat := (fs.names.idxOf name)

/-- Read a present field with `f`, under its key or its position. -/
def readField {α : Type} (fs : SettingFields) (name : String) (v : Setting)
    (f : Setting → Lenient α) : Lenient α :=
  (f v).mapError fun e =>
    if fs.positional then e.underIndex (fs.index name) else e.underKey name

/-- A field with a default. -/
def withDefault {α : Type} (fs : SettingFields) (name : String) (dflt : α)
    (f : Setting → Lenient α) : Lenient α :=
  match fs.present.lookup name with
  | some v => fs.readField name v f
  | none => pure dflt

/-- A required field. -/
def required {α : Type} (fs : SettingFields) (name : String) (f : Setting → Lenient α) :
    Lenient α :=
  match fs.present.lookup name with
  | some v => fs.readField name v f
  | none =>
    if fs.positional then
      throw (.other ("invalid length " ++ toString (fs.index name) ++ ", expected struct " ++
        fs.record ++ " with " ++ toString fs.names.length ++ " elements"))
    else throw (.other ("missing field `" ++ name ++ "`"))

/-- Read every present field in the given order, so that a malformed present field is
reported before a missing one. -/
def check (fs : SettingFields) (readers : List (String × (Setting → Lenient Unit))) :
    Lenient Unit :=
  readers.forM fun (name, r) =>
    match fs.present.lookup name with
    | some v => fs.readField name v r
    | none => pure ()

end SettingFields

end Throttle
