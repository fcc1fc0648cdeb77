import Throttle.Yaml.Node
import Throttle.Binary64.Read

/-!
# Plain scalars read as typed fields

A field of a fixed type reads the text of a plain scalar, whatever its tag says:

* a boolean is `true`, `True`, `TRUE` or one of the three spellings of false;
* an unsigned integer is decimal digits with an optional plus, or hexadecimal, octal or
  binary digits after `0x`, `0o`, `0b` (a plus may come before the prefix, but no sign
  after it); a decimal with a leading zero, like `007`, is not a number;
* a float is a decimal number with an optional sign, point and exponent that is finite,
  or `.inf`, `-.inf`, `.nan` in three spellings each;
* null is `~`, `null`, `Null` or `NULL`.

A quoted or block scalar is none of these.
-/

namespace Throttle

namespace Yaml

/-- The null spellings. -/
def isNullWord (s : String) : Bool := s == "~" || s == "null" || s == "Null" || s == "NULL"

/-- The boolean spellings. -/
def boolWord? (s : String) : Option Bool :=
  if s == "true" || s == "True" || s == "TRUE" then some true
  else if s == "false" || s == "False" || s == "FALSE" then some false
  else none

/-- The value of a digit in a radix up to 16. -/
def digitIn (radix : Nat) (c : Char) : Option Nat :=
  let d := if c.isDigit then some (c.toNat - '0'.toNat)
    else if 'a' ≤ c && c ≤ 'z' then some (c.toNat - 'a'.toNat + 10)
    else if 'A' ≤ c && c ≤ 'Z' then some (c.toNat - 'A'.toNat + 10)
    else none
  d.bind fun v => if v < radix then some v else none

/-- The number written by at least one digit of the radix. -/
def digitsIn (radix : Nat) (cs : List Char) : Option Nat :=
  if cs.isEmpty then none
  else cs.foldlM (fun acc c => (digitIn radix c).map (acc * radix + ·)) 0

/-- An integer in a radix with an optional sign; `signed` allows a minus. -/
def signedIn (radix : Nat) (signed : Bool) (cs : List Char) : Option Int :=
  match cs with
  | '+' :: r => if r.isEmpty then none else (digitsIn radix r).map Int.ofNat
  | '-' :: r => if signed && !r.isEmpty then (digitsIn radix r).map fun n => -(n : Int) else none
  | r => (digitsIn radix r).map Int.ofNat

/-- Digits with a leading zero, which the core schema reads as a string. -/
def leadingZeroDigits (s : String) : Bool :=
  let cs := match s.toList with
    | '-' :: r => r
    | '+' :: r => r
    | r => r
  cs.length > 1 && cs.head? == some '0' && (cs.drop 1).all Char.isDigit

/-- An unsigned integer: an optional plus, then a radix prefix or decimal digits. -/
def unsignedInt? (s : String) : Option Nat :=
  let cs := match s.toList with
    | '+' :: r => r
    | r => r
  let signFree (r : List Char) := match r with
    | '+' :: _ | '-' :: _ => false
    | _ => true
  let prefixed (p : List Char) (radix : Nat) : Option Nat :=
    if p.isPrefixOf cs && signFree (cs.drop 2) then
      (signedIn radix false (cs.drop 2)).map Int.toNat
    else none
  (prefixed ['0', 'x'] 16).orElse fun _ => (prefixed ['0', 'o'] 8).orElse fun _ =>
    (prefixed ['0', 'b'] 2).orElse fun _ =>
      if !signFree cs || leadingZeroDigits s then none
      else (signedIn 10 false cs).map Int.toNat

/-- The finite float a plain scalar denotes, or an infinity or not-a-number by name. -/
def floatOf? (s : String) : Option Binary64 :=
  let (positive, unsigned) := match s.toList with
    | '+' :: r => (true, String.ofList r)
    | _ => (false, s)
  let signed := match unsigned.toList with
    | '+' :: _ | '-' :: _ => true
    | _ => false
  if positive && signed then none
  else if unsigned == ".inf" || unsigned == ".Inf" || unsigned == ".INF" then some (.inf false)
  else if s == "-.inf" || s == "-.Inf" || s == "-.INF" then some (.inf true)
  else if s == ".nan" || s == ".NaN" || s == ".NAN" then some .nan
  else match Binary64.ofText? unsigned with
    | some x => if x.isFinite then some x else none
    | none => none

end Yaml

end Throttle
