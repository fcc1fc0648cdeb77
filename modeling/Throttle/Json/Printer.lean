import Throttle.Json.Value
import Throttle.Binary64.Text

/-!
# Writing JSON text

`Value.render` writes a value compactly, without blanks (`Value.write` takes the text of
floats as a parameter). Numbers keep their kind: an integer is written with its digits, a
float from its shortest decimal, positionally while the point position lies in `(-5, 16]`
and with an exponent otherwise, and always with a point or an exponent (`1.0`, `1e-7`,
`1.5e300`). In strings the quote, the
backslash and the control characters are escaped; other characters stand for themselves.
-/

namespace Throttle

namespace Json

/-- Floats in JSON text: positional for point positions in `(-5, 16]`, whole numbers
with `.0`. -/
def floatLayout : Layout := ⟨some (-5, 16), true, "null", "null"⟩

/-- Four lowercase hexadecimal digits. -/
def hex4 (n : Nat) : String :=
  let ds := Nat.toDigits 16 n
  String.ofList (List.replicate (4 - ds.length) '0' ++ ds)

/-- The escaped form of one character inside a JSON string. -/
def escapeChar (c : Char) : String :=
  if c = '"' then "\\\""
  else if c = '\\' then "\\\\"
  else if c = '\n' then "\\n"
  else if c = '\r' then "\\r"
  else if c = '\t' then "\\t"
  else if c = '\x08' then "\\b"
  else if c = '\x0c' then "\\f"
  else if c.toNat < 0x20 then "\\u" ++ hex4 c.toNat
  else c.toString

/-- A JSON string literal. -/
def quote (s : String) : String :=
  "\"" ++ String.join (s.toList.map escapeChar) ++ "\""

/-- The text of a float in JSON. -/
def floatText (x : Binary64) : String := floatLayout.render x

namespace Value

mutual

/-- Compact JSON text of the value, each float written by `ft`. -/
def write (ft : Binary64 → String) : Value → String
  | null => "null"
  | bool b => if b then "true" else "false"
  | int i => toString i
  | float x => ft x
  | str s => quote s
  | arr items => "[" ++ writeItems ft items ++ "]"
  | obj fields => "\x7b" ++ writeFields ft fields ++ "\x7d"

/-- Array items separated by commas. -/
def writeItems (ft : Binary64 → String) : List Value → String
  | [] => ""
  | [v] => write ft v
  | v :: rest => write ft v ++ "," ++ writeItems ft rest

/-- Object fields separated by commas. -/
def writeFields (ft : Binary64 → String) : List (String × Value) → String
  | [] => ""
  | [(k, v)] => quote k ++ ":" ++ write ft v
  | (k, v) :: rest => quote k ++ ":" ++ write ft v ++ "," ++ writeFields ft rest

end

/-- Compact JSON text of the value, floats in their shortest form. -/
def render (v : Value) : String := write floatText v

end Value

end Json

end Throttle
