import Throttle.Settings.Basic
import Throttle.Text.Case

/-!
# Key paths

Every key a settings source gives at its top level names a path into the settings tree:
a name, followed by any number of `.name` (an entry of a table) and `[i]` (an element of
a list, counted from the end when negative; blanks may stand around the number). A name
is a non-empty run of ASCII letters, digits, spaces, underscores and hyphens. A key that
is not such a path names the entry of that whole key.

Keys do not depend on case: every name is taken in lower case as it is set, also the
keys of a table merged in, though not those of tables inside a list.

Setting a path first makes the way to it: a name of the root table, or an entry of a
table, that is missing is added as null; a node that must be a table or a list but is
something else is replaced by an empty one; and a list too short for its index is
padded with nulls. Nodes made on the way come from no source. At the end of the path
the value goes into its place: a table is merged into the table at a name, entry by
entry, and anything else replaces what was there.
-/

namespace Throttle

/-- A path into a settings tree. -/
inductive KeyPath where
  | name (n : String)
  | child (p : KeyPath) (n : String)
  | index (p : KeyPath) (i : Int)
deriving Inhabited

namespace KeyPath

/-- A character of a name in a path. -/
def isNameChar (c : Char) : Bool :=
  ('a' ≤ c && c ≤ 'z') || ('A' ≤ c && c ≤ 'Z') || c.isDigit || c == ' ' || c == '_' || c == '-'

/-- A space or a tab around an index. -/
def isSpace (c : Char) : Bool := c == ' ' || c == '\t'

/-- The index between brackets, with the rest after the closing one: an optional minus
and digits, within the signed 64-bit range, with blanks around them. -/
def readIndex (cs : List Char) : Option (Int × List Char) :=
  let cs := cs.dropWhile isSpace
  let (negative, cs) := match cs with
    | '-' :: r => (true, r)
    | r => (false, r)
  let digits := cs.takeWhile Char.isDigit
  let cs := (cs.dropWhile Char.isDigit).dropWhile isSpace
  let n := digits.foldl (fun n c => n * 10 + (c.toNat - '0'.toNat)) 0
  let i : Int := if negative then -(n : Int) else n
  match cs with
  | ']' :: rest =>
    if digits.isEmpty || i < -(Int.pow 2 63) || Int.pow 2 63 ≤ i then none else some (i, rest)
  | _ => none

/-- The path `p` followed by the steps written in `cs`; each step reads at least one
character, so `fuel` above the length of `cs` is enough. -/
def readSteps : Nat → KeyPath → List Char → Option KeyPath
  | _, p, [] => some p
  | 0, _, _ :: _ => none
  | fuel + 1, p, '.' :: rest =>
    let n := rest.takeWhile isNameChar
    if n.isEmpty then none
    else readSteps fuel (.child p (String.ofList n)) (rest.dropWhile isNameChar)
  | fuel + 1, p, '[' :: rest =>
    match readIndex rest with
    | some (i, more) => readSteps fuel (.index p i) more
    | none => none
  | _ + 1, _, _ :: _ => none

/-- The path a key names: the path it is written as, or else the entry of the whole key. -/
def ofKey (key : String) : KeyPath :=
  let cs := key.toList
  let n := cs.takeWhile isNameChar
  if n.isEmpty then .name key
  else
    let rest := cs.dropWhile isNameChar
    (readSteps (rest.length + 1) (.name (String.ofList n)) rest).getD (.name key)

end KeyPath

namespace Setting

/-- The node that must be a table, as a table: its entries, or none when it is not one. -/
def tableEntries : Setting → List (String × Setting)
  | table _ es => es
  | _ => []

/-- The origin of a node kept as a table, or none for one made anew. -/
def tableOrigin : Setting → Option String
  | table o _ => o
  | _ => none

/-- The node kept as a list: its items, or none when it is not one. -/
def listItems : Setting → List Setting
  | list _ xs => xs
  | _ => []

/-- The origin of a node kept as a list, or none for one made anew. -/
def listOrigin : Setting → Option String
  | list o _ => o
  | _ => none

/-- The place an index names in a list of `len` items: counted from the end when
negative, and none when it lies before the start. -/
def placeOf (i : Int) (len : Nat) : Option Nat :=
  if 0 ≤ i then some i.toNat
  else if i.natAbs ≤ len then some (len - i.natAbs) else none

/-- Apply `f` to the item at `k`, padding the list with nulls to reach it. -/
def updateItem (xs : List Setting) (k : Nat) (f : Setting → Setting) : List Setting :=
  let padded := xs ++ List.replicate (k + 1 - xs.length) (nil none)
  padded.modify k f

/-- Apply `f` to the entry of `key` in lower case, added as null when missing. -/
def updateEntry (es : List (String × Setting)) (key : String) (f : Setting → Setting) :
    List (String × Setting) :=
  let key := Text.lowercase key
  match es.lookup key with
  | some v => putEntry key (f v) es
  | none => es ++ [(key, f (nil none))]

/-- Apply `f` to the entry of `key` of a node that must be a table. -/
def updateKey (s : Setting) (key : String) (f : Setting → Setting) : Setting :=
  table s.tableOrigin (updateEntry s.tableEntries key f)

/-- Apply `f` to the item at index `i` of a node that must be a list; an index before the
start leaves the node as it is. -/
def updateIndex (s : Setting) (i : Int) (f : Setting → Setting) : Setting :=
  let xs := s.listItems
  match placeOf i xs.length with
  | some k => list s.listOrigin (updateItem xs k f)
  | none => s

/-- Apply `f` to the node at a path, making the way to it. A name of a root that is not
a table reaches nothing. -/
def updateAt (f : Setting → Setting) : KeyPath → Setting → Setting
  | .name n, s =>
    match s with
    | table o es => table o (updateEntry es n f)
    | s => s
  | .child p n, s => updateAt (fun v => v.updateKey n f) p s
  | .index p i, s => updateAt (fun v => v.updateIndex i f) p s

mutual

/-- Set the entry `key` (in lower case) of a node made a table: a table is merged, entry by entry, into
what is there (a new table when nothing is), and anything else replaces the entry. -/
def assign (s : Setting) (key : String) : Setting → Setting
  | table _ es =>
    let o := s.tableOrigin
    let fs := s.tableEntries
    let key := Text.lowercase key
    match fs.lookup key with
    | some old => table o (putEntry key (mergeEntries old es) fs)
    | none => table o (fs ++ [(key, mergeEntries emptyTable es)])
  | v => s.updateKey key fun _ => v

/-- Set each entry in turn. -/
def mergeEntries (target : Setting) : List (String × Setting) → Setting
  | [] => target
  | (k, v) :: rest => mergeEntries (target.assign k v) rest

end

/-- Set the value at a path. -/
def setAt (s : Setting) (p : KeyPath) (v : Setting) : Setting :=
  match p with
  | .name n => s.assign n v
  | .child q n => updateAt (fun parent => parent.assign n v) q s
  | .index q i => updateAt (fun parent => parent.updateIndex i fun _ => v) q s

/-- Lay the entries of a source over a tree, each key naming the path it is written as. -/
def layEntries (s : Setting) (entries : List (String × Setting)) : Setting :=
  entries.foldl (fun r (k, v) => r.setAt (KeyPath.ofKey k) v) s

end Setting

end Throttle
