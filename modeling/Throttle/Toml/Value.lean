import Throttle.Toml.Datetime
import Throttle.Binary64.Basic

/-!
# TOML values and tables

The values of a TOML document: strings, integers, floats, booleans, date-times,
arrays, tables and arrays of tables. A table remembers how it came to be, because TOML
lets a table be defined only once: an implicit table was only made on the way to a
deeper key or header, a dotted one by a dotted key, and an inline one was written whole
as `{ ... }`.

`Conflict` says why a key cannot go where it is written: it is defined already, or a
dotted key would reach into a value that is not a table.
-/

namespace Throttle

namespace Toml

/-- How a table came to be. -/
structure TableKind where
  inline : Bool := false
  implicit : Bool := false
  dotted : Bool := false
deriving DecidableEq, Inhabited

/-- A TOML value; `tables` is an array of tables made by `[[header]]`s. -/
inductive Value where
  | str (s : String)
  | int (i : Int)
  | float (x : Binary64)
  | bool (b : Bool)
  | datetime (d : Datetime)
  | array (items : List Value)
  | table (kind : TableKind) (entries : List (String × Value))
  | tables (items : List Value)
deriving Inhabited

/-- The entries of a table. -/
abbrev Entries := List (String × Value)

/-- A part of a key: its text as written, and the name it stands for. -/
structure Key where
  raw : String
  name : String
deriving Inhabited

/-- The names of the parts of a key, joined by dots. -/
def Key.join (ks : List Key) : String := ".".intercalate (ks.map (·.name))

/-- The kind of a value, as messages name it. -/
def Value.typeName : Value → String
  | .str _ => "string"
  | .int _ => "integer"
  | .float _ => "float"
  | .bool _ => "boolean"
  | .datetime _ => "datetime"
  | .array _ => "array"
  | .table k _ => if k.inline then "inline table" else "table"
  | .tables _ => "array of tables"

/-- Why a key cannot be defined. -/
inductive Conflict where
  /-- The key is defined already; with the path of the table it is in, when known. -/
  | duplicate (key : String) (table : Option (List Key))
  /-- A dotted key reaches into a value of the named kind. -/
  | extendsValue (key : List Key) (actual : String)
deriving Inhabited

/-- The wording of a conflict. -/
def Conflict.message : Conflict → String
  | .duplicate key none => "duplicate key `" ++ key ++ "`"
  | .duplicate key (some []) => "duplicate key `" ++ key ++ "` in document root"
  | .duplicate key (some t) => "duplicate key `" ++ key ++ "` in table `" ++ Key.join t ++ "`"
  | .extendsValue key actual =>
    "dotted key `" ++ Key.join key ++ "` attempted to extend non-table type (" ++ actual ++ ")"

/-- The conflict of a header whose `i`-th key is taken: the key as written, in the
table its path leads to. -/
def Conflict.ofHeader (path : List Key) (i : Nat) : Conflict :=
  .duplicate ((path.getD i default).raw) (some (path.take i))

end Toml

end Throttle
