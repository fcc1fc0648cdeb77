import Throttle.Config.Basic
import Throttle.Yaml.Scalar
import Throttle.Folder

/-!
# Configuration documents

A configuration document is one YAML document read strictly into a `Config`: each
section is a mapping (or an empty value, which leaves the section's defaults), fields may
come in any order, unknown fields are ignored and a field given twice is an error. A tier
named twice keeps its last entry.

Counts, the multiplier and booleans are read from the text of a plain scalar, whatever
its tag (see `Yaml.Scalar`): a count is an unsigned integer below `2 ^ 64`, the
multiplier any finite number. An optional field is absent when left empty or null. Names
are the text of any scalar. A discipline is a scalar naming it, or a unit value tagged
`!name`. A section may also be a sequence of its fields in declaration order, and an
empty plain scalar, tagged or not, stands for an empty section, list or mapping.

Any error is one cause, `ConfigFault.unreadable`, whose detail names the first problem
met. An empty text, or one with only comments, is the default configuration; more than
one document is an error.
-/

namespace Throttle

namespace Yaml

/-- A strict reading. -/
abbrev Strict := Except String

/-- Whether a tag is the core null tag. -/
def Tag.isNull (t : Tag) : Bool := t.pfx ++ t.suffix == corePrefix ++ "null"

/-- The variant a local tag names: the tag without its leading `!`, or `!` alone. -/
def Tag.variant? (t : Tag) : Option String :=
  let full := t.pfx ++ t.suffix
  if !full.startsWith "!" then none
  else if full.length > 1 then some (full.drop 1).toString
  else some full

namespace Node

/-- Whether the node is an empty plain scalar, whatever its tag, which stands for an
empty collection. -/
def isEmptyPlain : Node → Bool
  | .scalar "" .plain _ => true
  | _ => false

/-- Whether an optional field given this node is absent: an untagged plain scalar that
is empty or null, or a plain one tagged null, whose text must then be a null word. -/
def isAbsent : Node → Strict Bool
  | .scalar text .plain none => pure (text.isEmpty || isNullWord text)
  | .scalar text .plain (some t) =>
    if !t.isNull then pure false
    else if isNullWord text then pure true
    else throw ("invalid value: " ++ text ++ ", expected null")
  | _ => pure false

/-- The text of a plain scalar, for a field of a fixed type. -/
def plainText (expected : String) : Node → Strict String
  | .scalar t .plain _ => pure t
  | _ => throw ("invalid type, expected " ++ expected)

/-- The text of a scalar, whatever it denotes. -/
def text : Node → Strict String
  | .scalar t _ _ => pure t
  | .sequence _ _ => throw "invalid type: sequence, expected a string"
  | .mapping _ _ => throw "invalid type: map, expected a string"

/-- A count: an unsigned integer below `2 ^ 64`. -/
def count (n : Node) : Strict Nat := do
  let t ← n.plainText "u64"
  match unsignedInt? t with
  | some v => if v < Nat.pow 2 64 then pure v else throw "invalid value, expected u64"
  | none => throw "invalid type, expected u64"

/-- A binary64 number. -/
def number (n : Node) : Strict Binary64 := do
  let t ← n.plainText "f64"
  match floatOf? t with
  | some x => pure x
  | none => throw "invalid type, expected f64"

/-- A boolean. -/
def boolean (n : Node) : Strict Bool := do
  let t ← n.plainText "a boolean"
  match boolWord? t with
  | some b => pure b
  | none => throw "invalid type, expected a boolean"

/-- An optional value: absent when null. -/
def optional {α : Type} (f : Node → Strict α) (n : Node) : Strict (Option α) := do
  if ← n.isAbsent then pure none else some <$> f n

/-- Whether the node is a unit value: a plain scalar that is empty or null. -/
def isUnit : Node → Bool
  | .scalar text .plain _ => text.isEmpty || isNullWord text
  | _ => false

/-- The items of a sequence; an empty value has none. -/
def items (n : Node) : Strict (List Node) :=
  match n with
  | .sequence xs _ => pure xs
  | n => if n.isEmptyPlain then pure [] else throw "invalid type, expected a sequence"

/-- The pairs of a mapping; an empty value has none. -/
def entries (n : Node) : Strict (List (Node × Node)) :=
  match n with
  | .mapping es _ => pure es
  | n => if n.isEmptyPlain then pure [] else throw "invalid type, expected a map"

/-- The known fields of a record: from a mapping, by name, ignoring unknown names and
refusing a repeated one; from a sequence, by position. -/
def fields (record : String) (names : List String) (n : Node) : Strict (List (String × Node)) :=
  match n with
  | .mapping es _ =>
    es.foldlM (fun acc (k, v) => do
      let name ← k.text
      if !names.contains name then pure acc
      else if acc.any (·.1 == name) then throw ("duplicate field `" ++ name ++ "`")
      else pure (acc ++ [(name, v)])) []
  | .sequence xs _ =>
    if xs.length > names.length then throw "invalid length, expected fewer elements in sequence"
    else pure (names.zip xs)
  | n =>
    if n.isEmptyPlain then pure [] else throw ("invalid type, expected " ++ record)

end Node

/-- A field read with `f`, or its default when absent. -/
def fieldOr {α : Type} (fs : List (String × Node)) (name : String) (dflt : α)
    (f : Node → Strict α) : Strict α :=
  match fs.lookup name with
  | some n => f n
  | none => pure dflt

/-- A required field read with `f`. -/
def fieldReq {α : Type} (fs : List (String × Node)) (name : String) (f : Node → Strict α) :
    Strict α :=
  match fs.lookup name with
  | some n => f n
  | none => throw ("missing field `" ++ name ++ "`")

end Yaml

namespace Config

open Yaml

/-- A discipline: a scalar naming it, or a value tagged with its name that is a unit. -/
def algorithmOf (n : Node) : Strict Algorithm :=
  let byName (s : String) : Strict Algorithm :=
    match Algorithm.ofName? s with
    | some a => pure a
    | none => throw ("unknown variant `" ++ s ++ "`")
  let tagged (t : Option Tag) : Option String := t.bind Tag.variant?
  match n with
  | .scalar s _ t =>
    match tagged t with
    | some name => do
      let a ← byName name
      if n.isUnit then pure a else throw "invalid type, expected unit"
    | none => byName s
  | .mapping _ t | .sequence _ t =>
    match tagged t with
    | some name => do
      let _ ← byName name
      throw "invalid type, expected unit"
    | none => throw "invalid type, expected enum Algorithm"

/-- A composite member. -/
def memberOf (n : Node) : Strict MemberSpec := do
  let fs ← n.fields "member" ["name", "algorithm", "requests", "window_secs"]
  pure ⟨← fieldReq fs "name" Node.text, ← fieldReq fs "algorithm" algorithmOf,
    ← fieldOr fs "requests" none (Node.optional Node.count),
    ← fieldOr fs "window_secs" none (Node.optional Node.count)⟩

/-- A tier's policy; both fields are required. -/
def tierOf (n : Node) : Strict TierSpec := do
  let fs ← n.fields "tier" ["requests", "window_secs"]
  pure ⟨← fieldReq fs "requests" Node.count, ← fieldReq fs "window_secs" Node.count⟩

/-- The tiers by name; a later entry of a name replaces an earlier one. -/
def tiersOf (n : Node) : Strict (List (String × TierSpec)) := do
  (← n.entries).foldlM (fun acc (k, v) => do
    pure (TierSpec.insert (← k.text) (← tierOf v) acc)) []

/-- The limiter section. -/
def limiterOf (n : Node) : Strict LimiterSpec := do
  let fs ← n.fields "limiter section"
    ["algorithm", "capacity_multiplier", "max_entries_per_key", "members"]
  let d : LimiterSpec := {}
  pure ⟨← fieldOr fs "algorithm" d.algorithm algorithmOf,
    ← fieldOr fs "capacity_multiplier" d.capacityMultiplier Node.number,
    ← fieldOr fs "max_entries_per_key" d.maxEntriesPerKey Node.count,
    ← fieldOr fs "members" d.members fun m => do (← m.items).mapM memberOf⟩

/-- The policy section. -/
def policyOf (n : Node) : Strict PolicySpec := do
  let fs ← n.fields "policy section" ["requests", "window_secs", "tiers", "fallback_tier"]
  let d : PolicySpec := {}
  pure ⟨← fieldOr fs "requests" d.requests Node.count,
    ← fieldOr fs "window_secs" d.windowSecs Node.count,
    ← fieldOr fs "tiers" d.tiers tiersOf,
    ← fieldOr fs "fallback_tier" d.fallbackTier (Node.optional Node.text)⟩

/-- The eviction section. -/
def evictionOf (n : Node) : Strict EvictionSpec := do
  let fs ← n.fields "eviction section" ["enabled", "idle_ttl_secs", "sweep_interval_secs"]
  let d : EvictionSpec := {}
  pure ⟨← fieldOr fs "enabled" d.enabled Node.boolean,
    ← fieldOr fs "idle_ttl_secs" d.idleTtlSecs Node.count,
    ← fieldOr fs "sweep_interval_secs" d.sweepIntervalSecs Node.count⟩

/-- A whole configuration document. -/
def ofNode (n : Node) : Strict Config := do
  let fs ← n.fields "configuration" ["limiter", "policy", "eviction"]
  let d : Config := {}
  pure ⟨← fieldOr fs "limiter" d.limiter limiterOf, ← fieldOr fs "policy" d.policy policyOf,
    ← fieldOr fs "eviction" d.eviction evictionOf⟩

/-- The configuration a YAML text holds, read strictly and validated. -/
def ofYaml (text : String) : Except Error Config := do
  let read : Strict Config := do
    match (← (Node.load .yaml11 (fun _ _ => false) text).mapError (·.message)).1 with
    | [] => pure {}
    | [root] => ofNode root
    | _ => throw "deserializing from YAML containing more than one document is not supported"
  let c ← read.mapError fun detail => .config (.unreadable detail)
  c.validate
  pure c

/-- The configuration in the YAML file `path` of a folder. -/
def ofFile (dir : Folder) (path : String) : Except Error Config := do
  let text ← (dir.read path).mapError Error.io
  ofYaml text

end Config

end Throttle
