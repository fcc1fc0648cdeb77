import Throttle.Binary64.Shortest

/-!
# Text of binary64 values

A value is written from its shortest decimal (`Binary64.shortestOf`), either positionally
(`123.45`, `0.001`) or with an exponent (`1.5e-7`, `1e300`). A `Layout` records the
decisions that differ between the places that write numbers: the range of point
positions written positionally, whether a whole number keeps `.0`, and the texts of
not-a-number and infinity. `Binary64.fixed` writes a value to a fixed number of places,
from its exact binary value, a half going to the even neighbour.
-/

namespace Throttle

/-- How a value is written. With the point position `p` (the value is
`0.d₁d₂… * 10 ^ p`), it is written positionally when `low < p ≤ high`, or always when the
range is absent. -/
structure Layout where
  positional : Option (Int × Int)
  pointZero : Bool
  nanText : String
  infText : String

namespace Layout

/-- `n` zeros. -/
def zeros (n : Nat) : String := String.ofList (List.replicate n '0')

/-- Positional text of the digits `ds` with the point at position `p`. -/
def positionalText (ds : String) (p : Int) (pointZero : Bool) : String :=
  let len : Int := ds.length
  if p ≤ 0 then "0." ++ zeros (-p).toNat ++ ds
  else if p < len then
    String.ofList (ds.toList.take p.toNat) ++ "." ++ String.ofList (ds.toList.drop p.toNat)
  else ds ++ zeros (p - len).toNat ++ (if pointZero then ".0" else "")

/-- Exponent text of the digits `ds` with the point at position `p`: one digit before the
point, and the exponent with a minus sign when negative. -/
def exponentText (ds : String) (p : Int) : String :=
  let head := String.ofList (ds.toList.take 1)
  let tail := String.ofList (ds.toList.drop 1)
  head ++ (if tail.isEmpty then "" else "." ++ tail) ++ "e" ++ toString (p - 1)

/-- The text of a value in this layout. -/
def render (l : Layout) : Binary64 → String
  | .nan => l.nanText
  | .inf s => (if s then "-" else "") ++ l.infText
  | .finite s m e =>
    let sign := if s then "-" else ""
    if m = 0 then sign ++ positionalText "0" 1 l.pointZero
    else
      let d := Binary64.shortestOf m e
      let ds := toString d.digits
      let p := d.pointPos
      let inRange := match l.positional with
        | none => true
        | some (low, high) => low < p && p ≤ high
      sign ++ (if inRange then positionalText ds p l.pointZero else exponentText ds p)

end Layout

namespace Binary64

/-- The value written with `places` digits after the point, rounded from its exact binary
value to the nearest, a half going to the even last digit. -/
def fixed (places : Nat) : Binary64 → String
  | .nan => "NaN"
  | .inf s => (if s then "-" else "") ++ "inf"
  | .finite s m e =>
    let q := roundHalfEven (m * Nat.pow 10 places * Nat.pow 2 e.toNat) (Nat.pow 2 (-e).toNat)
    let whole := toString (q / Nat.pow 10 places)
    let frac := toString (q % Nat.pow 10 places)
    let frac := Layout.zeros (places - frac.length) ++ frac
    (if s then "-" else "") ++ whole ++ (if places = 0 then "" else "." ++ frac)

end Binary64

end Throttle
