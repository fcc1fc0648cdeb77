import Throttle.Json.Printer
import Throttle.Text.Quote
import Throttle.Error

/-!
# Reading typed data from JSON values

Records, lists and scalars are read from a `Json.Value` with the standard diagnostics:
`invalid type: string "5", expected i64`, `missing field ...`, `invalid length 3,
expected fewer elements in array`. A record may be given as an object, whose fields are
read in key order with unknown fields ignored, or as an array, whose items are its fields
in declaration order. A field with a default may be absent; an optional field may also be
`null`.
-/

namespace Throttle

namespace Json

/-- Why a value does not have the expected shape. -/
inductive DecodeError where
  | invalidType (found : Value) (expected : String)
  | invalidValue (found : Value) (expected : String)
  | missingField (name : String)
  | invalidLength (length : Nat) (expected : String)
deriving Inhabited

namespace Value

/-- How a value is named in diagnostics. -/
def unexpected : Value → String
  | null => "null"
  | bool b => "boolean `" ++ (if b then "true" else "false") ++ "`"
  | int i => "integer `" ++ toString i ++ "`"
  | float x => "floating point `" ++ floatText x ++ "`"
  | str s => "string " ++ Text.quote s
  | arr _ => "sequence"
  | obj _ => "map"

end Value

/-- The wording of a decoding error. -/
def DecodeError.message : DecodeError → String
  | .invalidType v e => "invalid type: " ++ v.unexpected ++ ", expected " ++ e
  | .invalidValue v e => "invalid value: " ++ v.unexpected ++ ", expected " ++ e
  | .missingField n => "missing field `" ++ n ++ "`"
  | .invalidLength n e => "invalid length " ++ toString n ++ ", expected " ++ e

/-- A decoding result. -/
abbrev Decoded := Except DecodeError

namespace Value

/-- A string. -/
def toStr : Value → Decoded String
  | str s => pure s
  | v => throw (.invalidType v "a string")

/-- A boolean. -/
def toBool : Value → Decoded Bool
  | bool b => pure b
  | v => throw (.invalidType v "a boolean")

/-- An unsigned 64-bit integer. -/
def toU64 : Value → Decoded Nat
  | int i => if 0 ≤ i then pure i.toNat else throw (.invalidValue (int i) "u64")
  | v => throw (.invalidType v "u64")

/-- A signed 64-bit integer. -/
def toI64 : Value → Decoded Int
  | int i => if i < Int.pow 2 63 then pure i else throw (.invalidValue (int i) "i64")
  | v => throw (.invalidType v "i64")

/-- A binary64 number; integers are rounded to it. -/
def toF64 : Value → Decoded Binary64
  | int i => pure (if i < 0 then -(Binary64.ofNat i.natAbs) else Binary64.ofNat i.toNat)
  | float x => pure x
  | v => throw (.invalidType v "f64")

/-- The items of a sequence. -/
def toItems : Value → Decoded (List Value)
  | arr xs => pure xs
  | v => throw (.invalidType v "a sequence")

/-- The fields of a map. -/
def toFields : Value → Decoded (List (String × Value))
  | obj fs => pure fs
  | v => throw (.invalidType v "a map")

/-- An optional value: `none` for `null`. -/
def toOption {α : Type} (f : Value → Decoded α) : Value → Decoded (Option α)
  | null => pure none
  | v => some <$> f v

end Value

/-- The fields of a record as given: the known fields of an object in key order, or the
items of an array paired with the field names in order. -/
structure FieldSet where
  record : String
  names : List String
  present : List (String × Value)
  arrayLength : Option Nat

namespace FieldSet

/-- The fields of a record value named `record` with the given field names. -/
def of (record : String) (names : List String) : Value → Decoded FieldSet
  | .obj fs => pure ⟨record, names, fs.filter (fun f => names.contains f.1), none⟩
  | .arr xs => pure ⟨record, names, names.zip xs, some xs.length⟩
  | v => throw (.invalidType v ("struct " ++ record))

/-- The error for a required field that is absent. -/
def missing (fs : FieldSet) (name : String) : DecodeError :=
  match fs.arrayLength with
  | some n => .invalidLength n ("struct " ++ fs.record ++ " with " ++ toString fs.names.length ++
      " elements")
  | none => .missingField name

/-- Refuse an array with more items than the record has fields. -/
def finish (fs : FieldSet) : Decoded Unit :=
  match fs.arrayLength with
  | some n => if fs.names.length < n then throw (.invalidLength n "fewer elements in array") else pure ()
  | none => pure ()

/-- A required field, read with `f`. -/
def required {α : Type} (fs : FieldSet) (name : String) (f : Value → Decoded α) : Decoded α :=
  match fs.present.lookup name with
  | some v => f v
  | none => throw (fs.missing name)

/-- A field with a default, read with `f`. -/
def withDefault {α : Type} (fs : FieldSet) (name : String) (dflt : α) (f : Value → Decoded α) :
    Decoded α :=
  match fs.present.lookup name with
  | some v => f v
  | none => pure dflt

/-- Read every present field in the order given, so that the first malformed field in that
order is the one reported. -/
def check (fs : FieldSet) (readers : List (String × (Value → Decoded Unit))) : Decoded Unit :=
  fs.present.forM fun (k, v) =>
    match readers.lookup k with
    | some r => r v
    | none => pure ()

end FieldSet

end Json

end Throttle
