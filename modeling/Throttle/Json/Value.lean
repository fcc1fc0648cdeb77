import Throttle.Binary64.Basic

/-!
# JSON values

A JSON value keeps the kind of each number: an integer (a natural number below `2 ^ 64`
or a negative one not below `-2 ^ 63`) or a finite binary64 number, since `1` and `1.0`
are read and written differently. Objects are lists of fields; the reader produces them
sorted by key without duplicates, and `Value.insert` keeps that form.
-/

namespace Throttle

namespace Json

/-- A JSON document. -/
inductive Value where
  | null
  | bool (b : Bool)
  | int (i : Int)
  | float (x : Binary64)
  | str (s : String)
  | arr (items : List Value)
  | obj (fields : List (String × Value))
deriving Inhabited

namespace Value

/-- A binary64 number as a value: finite numbers are numbers, the others `null`. -/
def ofBinary64 (x : Binary64) : Value :=
  if x.isFinite then float x else null

/-- A natural number as a value. -/
def nat (n : Nat) : Value := int n

/-- An optional value, `null` when absent. -/
def opt {α : Type} (f : α → Value) : Option α → Value
  | some a => f a
  | none => null

/-- Insert a field into a key-sorted field list, replacing a field of the same key. -/
def insertField (k : String) (v : Value) : List (String × Value) → List (String × Value)
  | [] => [(k, v)]
  | (k', v') :: rest =>
    if k = k' then (k, v) :: rest
    else if k < k' then (k, v) :: (k', v') :: rest
    else (k', v') :: insertField k v rest

/-- The field of an object with the given key. -/
def field? (v : Value) (k : String) : Option Value :=
  match v with
  | obj fields => fields.lookup k
  | _ => none

/-- Whether the value is `null`. -/
def isNull : Value → Bool
  | null => true
  | _ => false

end Value

end Json

end Throttle
