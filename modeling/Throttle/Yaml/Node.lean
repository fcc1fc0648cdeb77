import Throttle.Yaml.Event

/-!
# YAML nodes

The representation graph of a YAML document as a tree: scalars with their style and tag,
sequences, and mappings with their pairs in document order. An alias stands for a copy of
the node last anchored under its name; an alias to a node that is not complete yet (a
node containing itself) stands for an empty scalar.
-/

namespace Throttle

namespace Yaml

/-- A YAML node. -/
inductive Node where
  | scalar (text : String) (style : ScalarStyle) (tag : Option Tag)
  | sequence (items : List Node) (tag : Option Tag)
  | mapping (entries : List (Node × Node)) (tag : Option Tag)
deriving Inhabited

/-- The empty plain scalar. -/
def Node.empty : Node := .scalar "" .plain none

/-- Anchored nodes by name, the latest first. -/
abbrev Anchors := List (String × Node)

/-- Record a node under its anchor, if it has one. -/
def Anchors.record (a : Anchors) (anchor : Option String) (n : Node) : Anchors :=
  match anchor with
  | some name => (name, n) :: a
  | none => a

/-- A pair of a mapping whose key repeats a key before it in the same mapping: the key,
and the position of the event that ends the pair's value. -/
structure Repeat where
  key : Node
  mark : Mark
deriving Inhabited

/-- What composing has left: the anchors so far, the first repeated key met, and the
events still to read. -/
structure Composer where
  anchors : Anchors
  repeated : Option Repeat
  events : List (Event × Mark)
deriving Inhabited

/-- Record a repeated key, unless one was met before. -/
def Composer.noteRepeat (c : Composer) (r : Repeat) : Composer :=
  match c.repeated with
  | some _ => c
  | none => { c with repeated := some r }

/-- Record a node under its anchor, if it has one. -/
def Composer.record (c : Composer) (anchor : Option String) (n : Node) : Composer :=
  { c with anchors := c.anchors.record anchor n }

section Composing

variable (same : Node → Node → Bool)

mutual

/-- The node that the events start with and the position of the event that ends it;
keys are compared with `same`. -/
def Node.compose : Nat → Composer → Node × Mark × Composer
  | 0, c => (.empty, .start, c)
  | n + 1, c =>
    match c.events with
    | [] => (.empty, .start, c)
    | (e, m) :: es =>
      let c := { c with events := es }
      match e with
      | .alias name => ((c.anchors.lookup name).getD .empty, m, c)
      | .scalar text style anchor tag =>
        let node := Node.scalar text style tag
        (node, m, c.record anchor node)
      | .sequenceStart anchor tag =>
        let (items, m, c) := Node.composeItems n c
        let node := Node.sequence items tag
        (node, m, c.record anchor node)
      | .mappingStart anchor tag =>
        let (entries, m, c) := Node.composeEntries n [] c
        let node := Node.mapping entries tag
        (node, m, c.record anchor node)
      | _ => (.empty, m, c)

/-- The items of a sequence up to its end, and the position of the end. -/
def Node.composeItems : Nat → Composer → List Node × Mark × Composer
  | 0, c => ([], .start, c)
  | n + 1, c =>
    match c.events with
    | [] => ([], .start, c)
    | (.sequenceEnd, m) :: es => ([], m, { c with events := es })
    | _ =>
      let (item, _, c) := Node.compose n c
      let (items, m, c) := Node.composeItems n c
      (item :: items, m, c)

/-- The pairs of a mapping up to its end, after the keys `seen` before them, and the
position of the end. -/
def Node.composeEntries : Nat → List Node → Composer → List (Node × Node) × Mark × Composer
  | 0, _, c => ([], .start, c)
  | n + 1, seen, c =>
    match c.events with
    | [] => ([], .start, c)
    | (.mappingEnd, m) :: es => ([], m, { c with events := es })
    | _ =>
      let (k, _, c) := Node.compose n c
      let (v, mv, c) := Node.compose n c
      let c := if seen.any (same k) then c.noteRepeat ⟨k, mv⟩ else c
      let (entries, m, c) := Node.composeEntries n (k :: seen) c
      ((k, v) :: entries, m, c)

end

/-- The root nodes of the documents of an event stream, and the first repeated key met.
Anchors do not reach across documents. -/
def Node.documents : Nat → Composer → List Node × Option Repeat
  | 0, c => ([], c.repeated)
  | fuel + 1, c =>
    match c.events with
    | [] => ([], c.repeated)
    | (.documentStart, _) :: es =>
      let (root, _, c) := Node.compose same es.length { c with anchors := [], events := es }
      let c := match c.events with
        | (.documentEnd, _) :: rest => { c with events := rest }
        | _ => c
      let (roots, r) := Node.documents fuel c
      (root :: roots, r)
    | _ :: es => Node.documents fuel { c with events := es }

end Composing

/-- The documents of a YAML text under a dialect, and the first pair of a mapping whose
key repeats an earlier one by `same`; or the text's first syntax error. -/
def Node.load (d : Dialect) (same : Node → Node → Bool) (text : String) :
    Except SyntaxError (List Node × Option Repeat) := do
  let events ← Event.parse d text
  pure (Node.documents same events.length ⟨[], none, events⟩)

end Yaml

end Throttle
