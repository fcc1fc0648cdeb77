import Throttle.Settings.Yaml
import Throttle.Json5.Grammar

/-!
# Settings from JSON5

A JSON5 value becomes a setting once its strings and numbers are read. A number without
a point, an exponent, `Infinity` or `NaN` is an integer and must fit 64 signed bits;
hexadecimal digits must fit 32 unsigned bits and need no sign, for a signed one does not
read as an integer at all. Any other number is a float, and must be finite unless it is
written `Infinity`, `-Infinity`, `NaN` or `-NaN`. A `\x` or `\u` escape must stand for
a character. The first value in the text that does not read is the error. A key given
twice in an object keeps its last value, and the file must hold an object.
-/

namespace Throttle

namespace Json5

/-- The value of hexadecimal digits. -/
def hexValue (ds : List Char) : Nat :=
  ds.foldl (fun acc d =>
    let v := if d.isDigit then d.toNat - '0'.toNat
      else if 'a' ≤ d && d ≤ 'f' then d.toNat - 'a'.toNat + 10
      else d.toNat - 'A'.toNat + 10
    acc * 16 + v) 0

/-- The text a piece stands for. -/
def Piece.read : Piece → Except String String
  | .char c => pure c.toString
  | .escape c => pure (match c with
    | 'b' => "\x08"
    | 'f' => "\x0C"
    | 'n' => "\n"
    | 'r' => "\r"
    | 't' => "\t"
    | 'v' => "\x0B"
    | c => c.toString)
  | .nul => pure "\x00"
  | .code ds =>
    let v := hexValue ds
    if v.isValidChar then pure (Char.ofNat v).toString else throw "error parsing hex prefix"

/-- The text of a string or a name. -/
def readPieces (ps : List Piece) : Except String String := do
  let parts ← ps.mapM Piece.read
  pure (String.join parts)

/-- Whether a number is written in hexadecimal, without a sign. -/
def isHexText (s : String) : Bool :=
  s.length > 2 && (s.startsWith "0x" || s.startsWith "0X")

/-- Whether a number is an integer: no point, no exponent, not infinite nor `NaN`. -/
def isIntegerText (s : String) : Bool :=
  !s.contains '.' && (isHexText s || (!s.contains 'e' && !s.contains 'E')) &&
    !(s == "Infinity" || s == "-Infinity" || s == "+Infinity") &&
    !(s == "NaN" || s == "-NaN" || s == "+NaN")

/-- Hexadecimal digits that fit 32 unsigned bits. -/
def readHex (ds : List Char) : Except String Nat :=
  let v := hexValue ds
  if v < Nat.pow 2 32 then pure v else throw "error parsing hex"

/-- A decimal integer with an optional sign that fits 64 signed bits. -/
def readDecimal? (s : String) : Option Int :=
  let (negative, ds) := match s.toList with
    | '-' :: r => (true, r)
    | '+' :: r => (false, r)
    | r => (false, r)
  if ds.isEmpty || !ds.all Char.isDigit then none
  else
    let m := ds.foldl (fun n c => n * 10 + (c.toNat - '0'.toNat)) 0
    let v : Int := if negative then -(m : Int) else m
    if -(Int.pow 2 63) ≤ v && v < Int.pow 2 63 then some v else none

/-- A number as a setting from `origin`. -/
def readNumber (origin : Option String) (s : String) : Except String Setting :=
  if isIntegerText s then
    if isHexText s then do
      let v ← readHex (s.drop 2).toString.toList
      pure (.int origin v)
    else match readDecimal? s with
      | some v => pure (.int origin v)
      | none => throw "error parsing integer"
  else if s == "Infinity" then pure (.float origin (Binary64.inf false))
  else if s == "-Infinity" then pure (.float origin (Binary64.inf true))
  else if s == "NaN" || s == "-NaN" then pure (.float origin Binary64.nan)
  else if isHexText s then do
    let v ← readHex (s.drop 2).toString.toList
    pure (.float origin (Binary64.ofInt v))
  else match Binary64.ofText? s with
    | some x =>
      if x.isFinite then pure (.float origin x) else throw "error parsing number: too large"
    | none => throw "error parsing number"

mutual

/-- A value as a setting from `origin`. -/
def Node.toSetting (origin : Option String) : Node → Except String Setting
  | .null => pure (.nil origin)
  | .bool b => pure (.bool origin b)
  | .text ps => do
    let s ← readPieces ps
    pure (.str origin s)
  | .number s => readNumber origin s
  | .array items => do
    let items ← Node.itemsToSettings origin items
    pure (.list origin items)
  | .object pairs => do
    let entries ← Node.pairsToSettings origin pairs
    pure (.table origin (entries.foldl (fun es (k, v) => Setting.putEntry k v es) []))

/-- The items of an array as settings. -/
def Node.itemsToSettings (origin : Option String) : List Node → Except String (List Setting)
  | [] => pure []
  | v :: rest => do
    let s ← v.toSetting origin
    let ss ← Node.itemsToSettings origin rest
    pure (s :: ss)

/-- The pairs of an object as entries, each key read before its value. -/
def Node.pairsToSettings (origin : Option String) :
    List (List Piece × Node) → Except String (List (String × Setting))
  | [] => pure []
  | (k, v) :: rest => do
    let key ← readPieces k
    let s ← v.toSetting origin
    let es ← Node.pairsToSettings origin rest
    pure ((key, s) :: es)

end

end Json5

/-- The settings of a JSON5 file named `uri`. -/
def Setting.ofJson5 (uri : String) (text : String) :
    Except SettingsError (List (String × Setting)) := do
  let node ← (Json5.parse text).mapError (SettingsError.fileParse uri)
  let root ← (node.toSetting (some uri)).mapError (SettingsError.fileParse uri)
  Setting.rootEntries uri root

end Throttle
