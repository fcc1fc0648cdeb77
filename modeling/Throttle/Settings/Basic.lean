import Throttle.Binary64.Text
import Throttle.Text.Quote
import Throttle.Error

/-!
# Layered settings

A settings tree is what configuration sources produce before it is read into typed
records: nulls, booleans, 64-bit integers, floats, strings, lists and tables, each leaf
remembering the source it came from (a file name, or the environment).

Sources are laid over each other by setting paths (see `KeyPath`).

`SettingsError` says why a tree cannot be read: a value of the wrong kind for a key, with
the key's path and the value's source, or a message.
-/

namespace Throttle

/-- A node of a settings tree, with its source. -/
inductive Setting where
  | nil (origin : Option String)
  | bool (origin : Option String) (b : Bool)
  | int (origin : Option String) (i : Int)
  | float (origin : Option String) (x : Binary64)
  | str (origin : Option String) (s : String)
  | list (origin : Option String) (items : List Setting)
  | table (origin : Option String) (entries : List (String × Setting))
deriving Inhabited

namespace Setting

/-- The table with no entries and no source. -/
def emptyTable : Setting := .table none []

/-- Where the node came from. -/
def origin : Setting → Option String
  | nil o | bool o _ | int o _ | float o _ | str o _ | list o _ | table o _ => o

/-- The entry of a table. -/
def lookup (s : Setting) (key : String) : Option Setting :=
  match s with
  | table _ es => es.lookup key
  | _ => none

/-- Replace the entry of `key` in place, or add it at the end. -/
def putEntry (key : String) (v : Setting) : List (String × Setting) → List (String × Setting)
  | [] => [(key, v)]
  | (k, w) :: rest => if k = key then (key, v) :: rest else (k, w) :: putEntry key v rest

end Setting

/-- Why a settings tree cannot be read. -/
inductive SettingsError where
  | type (origin : Option String) (unexpected : String) (expected : String) (key : Option String)
  | other (text : String)
  | fileParse (uri : String) (cause : String)
  /-- A file gives a table key that is neither a string nor an integer, which the loader
  does not expect and stops at. -/
  | unexpectedKey
deriving Inhabited

namespace SettingsError

/-- Put a path segment in front of the key of a type error; a key part is joined with a
dot unless what follows is an index. -/
def prepend (segment : String) (addDot : Bool) : SettingsError → SettingsError
  | type o u e key =>
    let k := key.getD ""
    let dot := if addDot && k.toList.head?.getD '[' != '[' then "." else ""
    type o u e (some (segment ++ dot ++ k))
  | e => e

/-- The error under the table key `key`. -/
def underKey (key : String) (e : SettingsError) : SettingsError := prepend key true e

/-- The error under the list index `i`. -/
def underIndex (i : Nat) (e : SettingsError) : SettingsError :=
  prepend ("[" ++ toString i ++ "]") false e

/-- The wording of the error. -/
def message : SettingsError → String
  | type o u e key =>
    "invalid type: " ++ u ++ ", expected " ++ e ++
      (match key with
        | some k => " for key `" ++ k ++ "`"
        | none => "") ++
      (match o with
        | some o => " in " ++ o
        | none => "")
  | other t => t
  | fileParse uri cause => cause ++ " in " ++ uri
  | unexpectedKey => "internal error: entered unreachable code"

end SettingsError

end Throttle
