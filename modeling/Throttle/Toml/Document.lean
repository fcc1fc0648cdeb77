import Throttle.Toml.Grammar

/-!
# TOML documents

A document is read line by line: blank lines, comments, key/value pairs, and `[table]`
and `[[array of tables]]` headers. The pairs after a header go to its table, which joins
the document when the next header comes or the text ends; the pairs before the first
header go to the root.

A table is defined once. A header may name a table that so far was only made on the way
to a deeper header, but not one made by dotted keys or defined by an earlier header;
dotted keys make tables on their way, but may not reach into a table defined by a
header nor into a value. A key is defined once in its table.

A key/value pair that conflicts is reported at its key, a header at its `[`.
-/

namespace Throttle

namespace Toml

open Parse

/-- Replace the value of a key of a table. -/
def Entries.put (es : Entries) (k : String) (v : Value) : Entries :=
  es.map fun (n, w) => if n == k then (n, v) else (n, w)

/-- Apply `f` to the table a path leads to, making implicit tables on the way; the last
table of an array of tables stands for it. With `dotted`, the tables made are dotted
and a table defined by a header is not entered. -/
def descend {β : Type} (dotted : Bool) (whole : List Key) :
    List Key → Nat → TableKind × Entries →
    (TableKind × Entries → Except Conflict ((TableKind × Entries) × β)) →
    Except Conflict ((TableKind × Entries) × β)
  | [], _, t, f => f t
  | k :: rest, i, (kind, es), f =>
    match es.lookup k.name with
    | none => do
      let (child, b) ← descend dotted whole rest (i + 1) ({ implicit := true, dotted := dotted }, []) f
      pure ((kind, es ++ [(k.name, .table child.1 child.2)]), b)
    | some (.table ck ces) =>
      if ck.inline then throw (.extendsValue (whole.take (i + 1)) "inline table")
      else if dotted && !ck.implicit then throw (.duplicate k.name none)
      else do
        let (child, b) ← descend dotted whole rest (i + 1) (ck, ces) f
        pure ((kind, es.put k.name (.table child.1 child.2)), b)
    | some (.tables items) =>
      match items.getLast? with
      | some (.table lk les) => do
        let (child, b) ← descend dotted whole rest (i + 1) (lk, les) f
        pure ((kind, es.put k.name (.tables (items.dropLast ++ [.table child.1 child.2]))), b)
      | _ => throw (.duplicate k.name none)
    | some v => throw (.extendsValue (whole.take (i + 1)) v.typeName)

/-- A document being read: its tables so far, and the table that pairs go to now, with
its header's path and whether the header names an array of tables. -/
structure Builder where
  root : Entries := []
  current : TableKind × Entries := ({}, [])
  path : List Key := []
  isArray : Bool := false

namespace Builder

/-- The root as a table. -/
def rootTable (b : Builder) : TableKind × Entries := ({}, b.root)

/-- Put a pair into the current table. -/
def addPair (b : Builder) (ks : List Key) (v : Value) : Except Conflict Builder := do
  let path := ks.dropLast
  let leaf := ks.getLastD default
  let (current, _) ← descend true path path 0 b.current fun (kind, es) =>
    if kind.dotted == path.isEmpty then throw (.duplicate leaf.name none)
    else if es.any (·.1 == leaf.name) then throw (.duplicate leaf.name (some b.path))
    else pure ((kind, es ++ [(leaf.name, v)]), ())
  pure { b with current := current }

/-- Join the current table to the document. -/
def finish (b : Builder) : Except Conflict Builder := do
  let table := Value.table b.current.1 b.current.2
  let path := b.path
  if path.isEmpty then pure { b with root := b.current.2, current := ({}, []) }
  else
    let parent := path.dropLast
    let last := (path.getLastD default).name
    let ((_, root), _) ← descend false parent parent 0 b.rootTable fun (kind, es) =>
      match es.lookup last with
      | none =>
        if b.isArray then pure ((kind, es ++ [(last, .tables [table])]), ())
        else pure ((kind, es ++ [(last, table)]), ())
      | some (.tables items) =>
        if b.isArray then pure ((kind, es.put last (.tables (items ++ [table]))), ())
        else throw (Conflict.ofHeader path (path.length - 1))
      | some _ => throw (Conflict.ofHeader path (path.length - 1))
    pure { b with root := root, current := ({}, []), path := [] }

/-- Start the table of a `[header]`: a table made only on the way to a deeper header is
taken up with what it holds. -/
def openTable (b : Builder) (path : List Key) : Except Conflict Builder := do
  let b ← b.finish
  let parent := path.dropLast
  let last := (path.getLastD default).name
  let ((_, root), kept) ← descend false parent parent 0 b.rootTable fun (kind, es) =>
    match es.lookup last with
    | none => pure ((kind, es), [])
    | some (.table k held) =>
      if !k.inline && k.implicit && !k.dotted then
        pure ((kind, es.filter (·.1 != last)), held)
      else throw (Conflict.ofHeader path (path.length - 1))
    | some _ => throw (Conflict.ofHeader path (path.length - 1))
  pure { root := root, current := ({}, kept), path := path, isArray := false }

/-- Start a new table of the array of a `[[header]]`. -/
def openArrayTable (b : Builder) (path : List Key) : Except Conflict Builder := do
  let b ← b.finish
  let parent := path.dropLast
  let last := (path.getLastD default).name
  let ((_, root), _) ← descend false parent parent 0 b.rootTable fun (kind, es) =>
    match es.lookup last with
    | none => pure ((kind, es ++ [(last, .tables [])]), ())
    | some (.tables _) => pure ((kind, es), ())
    | some _ => throw (Conflict.ofHeader path (path.length - 1))
  pure { root := root, current := ({}, []), path := path, isArray := true }

end Builder

/-- Fail at `start` with a conflict, ending the reading. -/
def conflictAt {α : Type} (start : Nat) (labels : List String) (c : Conflict) : Parse α :=
  throw { fromEnd := start, labels := labels, cause := some c.message, cut := true }

/-- A `[header]` or `[[header]]` line. -/
def header (b : Builder) : Parse Builder :=
  label "table header" do
    let start ← here
    let two ← peekN 2
    if two.length < 2 then backtrack
    let array := two == ['[', '[']
    if array then literal "[[" else char '['
    let path ← cut key
    if array then cut (expecting ["`.`", "`]]`"] (literal "]]"))
    else cut (expecting ["`.`", "`]`"] (char ']'))
    cut (expecting ["newline", "`#`"] lineTrailing)
    let r := if array then b.openArrayTable path else b.openTable path
    match r with
    | .ok b => pure b
    | .error c => conflictAt start [] c

/-- A key/value pair line. -/
def pairLine (b : Builder) : Parse Builder := do
  let start ← here
  let ks ← key
  let v ← cut do
    expecting ["`.`", "`=`"] (char '=')
    ws
    let v ← value nestingRoom
    expecting ["newline", "`#`"] lineTrailing
    pure v
  match b.addPair ks v with
  | .ok b => pure b
  | .error c => conflictAt start [] c

/-- The lines of a document. -/
def documentLines (b : Builder) : Nat → Parse Builder
  | 0 => pure b
  | n + 1 => do
    let step : Parse Builder := do
      let b ← match ← peek? with
        | some '#' => cut (do comment; lineEnding; pure b)
        | some '[' => cut (header b)
        | some '\n' | some '\r' => do newline; pure b
        | some _ => cut (pairLine b)
        | none => backtrack
      ws
      pure b
    match ← optional step with
    | some b => documentLines b n
    | none => pure b

/-- The root table of a TOML text, or the report of its first error. -/
def parse (text : String) : Except String Entries :=
  let document : Parse Builder := do
    let _ ← optional (char '\uFEFF')
    ws
    let b ← documentLines {} (← fuel)
    eof
    pure b
  match document ⟨text.toList⟩ with
  | .error f => .error (f.render text)
  | .ok (b, _) =>
    match b.finish with
    | .ok b => .ok b.root
    | .error c => .error (c.message ++ "\n")

end Toml

end Throttle
