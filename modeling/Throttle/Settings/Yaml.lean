import Throttle.Settings.Read
import Throttle.Yaml.Scalar

/-!
# Settings from YAML

A YAML file is read under YAML 1.2 and loaded into values before it becomes settings.
Plain scalars are read loosely: `~` and `null` (and a left-out value) are null, exactly
`true` and `false` are booleans, a 64-bit integer in decimal, after `0x` or `0o`, or after
a plus is an integer, a number (or `.inf`, `.nan` and their spellings) is a float that
keeps its text, and anything else, the empty text too, is a string. Quoted and block
scalars are strings. A scalar with a core tag is read by its tag, and is a bad value
when it does not fit it.

A mapping keeps one pair per key, the first place and the last value; a key given twice
is an error of the file, reported at the end of the repeating pair's value, after any
syntax error. A float is then read once more as an ordinary decimal, so `.inf` and
`.nan` fail there; such a failure, like more than one document, is an error of the file.
Null and bad values are null settings.

The file must hold one mapping (or nothing). Its keys are strings or integers, written
out; a key of another kind stops the loader.
-/

namespace Throttle

namespace Yaml

/-- A 64-bit signed integer. -/
def isWord (i : Int) : Bool := decide (-Int.pow 2 63 ≤ i) && decide (i < Int.pow 2 63)

/-- A signed integer in a radix, within 64 bits. -/
def wordIn (radix : Nat) (cs : List Char) : Option Int :=
  (signedIn radix true cs).bind fun i => if isWord i then some i else none

/-- The spellings of infinity and not-a-number that a float scalar may take. -/
def isSpecialFloat (s : String) : Bool :=
  [".inf", ".Inf", ".INF", "+.inf", "+.Inf", "+.INF", "-.inf", "-.Inf", "-.INF",
    ".nan", "NaN", ".NaN", ".NAN"].contains s

/-- Whether a text reads as a float: one of the special spellings or a decimal number. -/
def isFloatText (s : String) : Bool := isSpecialFloat s || (Binary64.ofText? s).isSome

/-- A YAML value as the settings loader holds it. -/
inductive Value where
  | null
  | bool (b : Bool)
  | int (i : Int)
  | real (text : String)
  | str (s : String)
  | seq (items : List Value)
  | map (entries : List (Value × Value))
  | bad
deriving Inhabited

namespace Value

/-- What an untagged plain scalar denotes. -/
def ofPlain (s : String) : Value :=
  let cs := s.toList
  let radix : Option Int :=
    if ['0', 'x'].isPrefixOf cs then wordIn 16 (cs.drop 2)
    else if ['0', 'o'].isPrefixOf cs then wordIn 8 (cs.drop 2)
    else match cs with
      | '+' :: r => wordIn 10 r
      | _ => none
  match radix with
  | some i => .int i
  | none =>
    if s == "~" || s == "null" then .null
    else if s == "true" then .bool true
    else if s == "false" then .bool false
    else match wordIn 10 cs with
      | some i => .int i
      | none => if isFloatText s then .real s else .str s

/-- What a plain scalar with a tag denotes: a core tag reads it as a boolean, an integer,
a float or null, or else as a bad value; any other tag leaves a string. -/
def ofTagged (text : String) (t : Tag) : Value :=
  if t.pfx != corePrefix then .str text
  else if t.suffix == "bool" then
    if text == "true" then .bool true else if text == "false" then .bool false else .bad
  else if t.suffix == "int" then
    match wordIn 10 text.toList with
    | some i => .int i
    | none => .bad
  else if t.suffix == "float" then
    if isFloatText text then .real text else .bad
  else if t.suffix == "null" then
    if text == "~" || text == "null" then .null else .bad
  else .str text

mutual

/-- Whether two values are equal. -/
def beq : Value → Value → Bool
  | .null, .null => true
  | .bool a, .bool b => a == b
  | .int a, .int b => a == b
  | .real a, .real b => a == b
  | .str a, .str b => a == b
  | .seq as, .seq bs => beqItems as bs
  | .map as, .map bs => beqEntries as bs
  | .bad, .bad => true
  | _, _ => false

/-- Whether two lists of values are equal. -/
def beqItems : List Value → List Value → Bool
  | [], [] => true
  | a :: as, b :: bs => beq a b && beqItems as bs
  | _, _ => false

/-- Whether two lists of pairs are equal. -/
def beqEntries : List (Value × Value) → List (Value × Value) → Bool
  | [], [] => true
  | (k, v) :: as, (k', v') :: bs => beq k k' && beq v v' && beqEntries as bs
  | _, _ => false

end

/-- Put a pair into a mapping: a key already there keeps its place and takes the value. -/
def insertEntry (k v : Value) : List (Value × Value) → List (Value × Value)
  | [] => [(k, v)]
  | (k', v') :: rest => if beq k k' then (k', v) :: rest else (k', v') :: insertEntry k v rest

mutual

/-- A value as diagnostics name it: `String("a")`, `Integer(1)`, `Hash({...})`. -/
def debug : Value → String
  | .null => "Null"
  | .bool b => "Boolean(" ++ toString b ++ ")"
  | .int i => "Integer(" ++ toString i ++ ")"
  | .real t => "Real(" ++ Text.quote t ++ ")"
  | .str s => "String(" ++ Text.quote s ++ ")"
  | .seq items => "Array([" ++ debugItems items ++ "])"
  | .map entries => "Hash(\x7b" ++ debugEntries entries ++ "\x7d)"
  | .bad => "BadValue"

/-- Values as diagnostics name them, separated by commas. -/
def debugItems : List Value → String
  | [] => ""
  | [v] => debug v
  | v :: rest => debug v ++ ", " ++ debugItems rest

/-- Pairs as diagnostics name them, separated by commas. -/
def debugEntries : List (Value × Value) → String
  | [] => ""
  | [(k, v)] => debug k ++ ": " ++ debug v
  | (k, v) :: rest => debug k ++ ": " ++ debug v ++ ", " ++ debugEntries rest

end

end Value

mutual

/-- The value a node denotes. -/
def Node.toValue : Node → Value
  | .scalar text .plain none => .ofPlain text
  | .scalar text .plain (some t) => .ofTagged text t
  | .scalar text _ _ => .str text
  | .sequence items _ => .seq (Node.itemsToValues items)
  | .mapping entries _ => .map (Node.entriesToValues entries [])

/-- The values of a sequence's items. -/
def Node.itemsToValues : List Node → List Value
  | [] => []
  | n :: rest => n.toValue :: Node.itemsToValues rest

/-- The pairs of a mapping as values, put after `acc` one key each. -/
def Node.entriesToValues : List (Node × Node) → List (Value × Value) → List (Value × Value)
  | [], acc => acc
  | (k, v) :: rest, acc => Node.entriesToValues rest (Value.insertEntry k.toValue v.toValue acc)

end

/-- Whether two keys denote the same value. -/
def Node.sameKey (a b : Node) : Bool := a.toValue.beq b.toValue

namespace Value

/-- The text of a mapping key: a string, or an integer written out; a key of any other
kind stops the loader. -/
def keyText : Value → Except SettingsError String
  | .str s => pure s
  | .int i => pure (toString i)
  | _ => throw .unexpectedKey

mutual

/-- A value as a setting from the file `uri`. -/
def toSetting (uri : String) : Value → Except SettingsError Setting
  | .null | .bad => pure (.nil (some uri))
  | .bool b => pure (.bool (some uri) b)
  | .int i => pure (.int (some uri) i)
  | .real t =>
    match Binary64.ofText? t with
    | some x => pure (.float (some uri) x)
    | none => throw (.fileParse uri ("Parsing " ++ t ++ " as floating point number failed"))
  | .str s => pure (.str (some uri) s)
  | .seq items => do pure (.list (some uri) (← itemsToSettings uri items))
  | .map entries => do pure (.table (some uri) (← entriesToSettings uri entries))

/-- The items of a sequence as settings. -/
def itemsToSettings (uri : String) : List Value → Except SettingsError (List Setting)
  | [] => pure []
  | v :: rest => do pure ((← toSetting uri v) :: (← itemsToSettings uri rest))

/-- The pairs of a mapping as table entries, in order; each key is read before its
value. -/
def entriesToSettings (uri : String) :
    List (Value × Value) → Except SettingsError (List (String × Setting))
  | [] => pure []
  | (k, v) :: rest => do
    let key ← k.keyText
    let s ← toSetting uri v
    pure ((key, s) :: (← entriesToSettings uri rest))

end

end Value

end Yaml

/-- The root table of a settings file: it must be a table, or nothing at all. -/
def Setting.rootEntries (uri : String) (root : Setting) : Except SettingsError (List (String × Setting)) :=
  match root with
  | .table _ es => pure es
  | s => throw (.fileParse uri (s.typeError "a map").message)

/-- The settings of a YAML file named `uri`. -/
def Setting.ofYaml (uri : String) (text : String) : Except SettingsError (List (String × Setting)) := do
  let (docs, repeated) ← (Yaml.Node.load .yaml12 Yaml.Node.sameKey text).mapError fun e =>
    SettingsError.fileParse uri e.message
  match repeated with
  | some r =>
    let e : Yaml.SyntaxError := ⟨r.mark, r.key.toValue.debug ++ ": duplicated key in mapping"⟩
    throw (.fileParse uri e.message)
  | none => pure ()
  match docs with
  | [] => pure []
  | [root] =>
    let s ← root.toValue.toSetting uri
    Setting.rootEntries uri s
  | ds => throw (.fileParse uri ("Got " ++ toString ds.length ++ " YAML documents, expected 1"))

end Throttle
