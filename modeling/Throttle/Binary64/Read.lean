import Throttle.Binary64.Basic

/-!
# Reading decimal numbers

`Binary64.ofText?` reads the usual text of a floating-point number: an optional sign, then
`inf`, `infinity` or `nan` in any case, or digits with an optional fraction and an
optional exponent, at least one digit before or after the point. The result is the
nearest binary64 value, ties to even; a text with anything else in it reads as nothing.
-/

namespace Throttle

namespace Binary64

/-- The leading decimal digits and the text after them. -/
def spanDecimal (cs : List Char) : List Char × List Char :=
  (cs.takeWhile Char.isDigit, cs.dropWhile Char.isDigit)

/-- The natural number written by decimal digits. -/
def decimalValue (ds : List Char) : Nat :=
  ds.foldl (fun n c => n * 10 + (c.toNat - '0'.toNat)) 0

/-- The exponent part after `e`: an optional sign and at least one digit, nothing after. -/
def readExponent (cs : List Char) : Option Int :=
  let (negative, cs) := match cs with
    | '-' :: r => (true, r)
    | '+' :: r => (false, r)
    | r => (false, r)
  let (ds, rest) := spanDecimal cs
  if ds.isEmpty || !rest.isEmpty then none
  else some (if negative then -(decimalValue ds : Int) else decimalValue ds)

/-- The magnitude written by an unsigned decimal text. -/
def readMagnitude (cs : List Char) : Option Binary64 :=
  let lower := cs.map Char.toLower
  if lower == "inf".toList || lower == "infinity".toList then some (inf false)
  else if lower == "nan".toList then some nan
  else
    let (whole, rest) := spanDecimal cs
    let (frac, rest) := match rest with
      | '.' :: r => spanDecimal r
      | r => ([], r)
    if whole.isEmpty && frac.isEmpty then none
    else
      let expo : Option Int := match rest with
        | [] => some 0
        | c :: r => if c == 'e' || c == 'E' then readExponent r else none
      expo.map fun e =>
        let sci : Int := e - frac.length
        ofScientific (decimalValue (whole ++ frac)) (decide (sci < 0)) sci.natAbs

/-- The number written by a decimal text, rounded to nearest. -/
def ofText? (s : String) : Option Binary64 :=
  match s.toList with
  | '-' :: r => (readMagnitude r).map neg
  | '+' :: r => readMagnitude r
  | r => readMagnitude r

end Binary64

end Throttle
