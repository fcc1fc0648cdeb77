import Throttle.Binary64.Basic

/-!
# Shortest decimal of a binary64 value

The decimal `digits * 10 ^ exp` with the fewest significant digits that reads back as the
given finite value. The values that read back as `m * 2 ^ e` form an interval around it
whose ends are the midpoints to the neighbouring values; the ends belong to it when `m` is
even, since a tie reads as the even significand. For one, two, … seventeen digits the
search looks at the value's two neighbours on that decimal grid: the first grid with a
neighbour inside the interval gives the answer, the nearer neighbour when both are inside,
and the even one when they are equally near.
-/

namespace Throttle

/-- A positive decimal `digits * 10 ^ exp`; `digits` has no trailing zero. -/
structure Decimal where
  digits : Nat
  exp : Int
deriving DecidableEq, Inhabited

namespace Decimal

/-- The same decimal with the trailing zeros of the digits moved into the exponent. -/
def normalize (digits : Nat) (exp : Int) : Decimal :=
  if h : digits ≠ 0 ∧ digits % 10 = 0 then normalize (digits / 10) (exp + 1)
  else ⟨digits, exp⟩
termination_by digits
decreasing_by exact Nat.div_lt_self (Nat.pos_of_ne_zero h.1) (by decide)

/-- The number of decimal digits. -/
def length (d : Decimal) : Nat := Binary64.decimalLength d.digits

/-- The position of the decimal point: the value is `0.d₁d₂… * 10 ^ pointPos`. -/
def pointPos (d : Decimal) : Int := d.exp + d.length

end Decimal

namespace Binary64

/-- The greatest `k` with `10 ^ k ≤ num / den`, for positive `num` and `den`. -/
def floorLog10 (num den : Nat) : Int :=
  let t : Int := (decimalLength num : Int) - (decimalLength den : Int)
  if den * Nat.pow 10 t.toNat ≤ num * Nat.pow 10 (-t).toNat then t else t - 1

/-- The rounding interval of a positive finite `m * 2 ^ e`, in units of `2 ^ (e - 2)`: the
distances below and above the value, and whether the ends read back as the value. Below
the least significand of a binade the gap to the previous value is half as wide. -/
def interval (m : Nat) (e : Int) : Nat × Nat × Bool :=
  (if m = Nat.pow 2 52 ∧ minExp < e then 1 else 2, 2, m % 2 = 0)

/-- Where `c * 10 ^ s` stands against the interval of `m * 2 ^ e`: `none` when outside,
otherwise its distance to the value, scaled by a positive factor common to all candidates
of the same grid. -/
def candidateDistance (m : Nat) (e : Int) (c : Nat) (s : Int) : Option Nat :=
  let (below, above, closed) := interval m e
  let x := c * Nat.pow 10 s.toNat * Nat.pow 2 (2 - e).toNat
  let unit := Nat.pow 2 (e - 2).toNat * Nat.pow 10 (-s).toNat
  let v := 4 * m * unit
  let lo := (4 * m - below) * unit
  let hi := (4 * m + above) * unit
  let inside := (lo < x || (closed && lo == x)) && (x < hi || (closed && x == hi))
  if inside then some (if x ≤ v then v - x else x - v) else none

/-- The pick on the grid `10 ^ s` between the neighbours `q` and `q + 1`. -/
def pickOnGrid (m : Nat) (e : Int) (q : Nat) (s : Int) : Option Nat :=
  match candidateDistance m e q s, candidateDistance m e (q + 1) s with
  | some a, some b => some (if a < b then q else if b < a then q + 1 else if q % 2 = 0 then q else q + 1)
  | some _, none => some q
  | none, some _ => some (q + 1)
  | none, none => none

/-- The shortest decimal of the positive value `m * 2 ^ e` (`m > 0`). -/
def shortestOf (m : Nat) (e : Int) : Decimal :=
  let num := m * Nat.pow 2 e.toNat
  let den := Nat.pow 2 (-e).toNat
  let top := floorLog10 num den
  let grid (n : Nat) : Int := top - n + 1
  let below (s : Int) : Nat := num * Nat.pow 10 (-s).toNat / (den * Nat.pow 10 s.toNat)
  let found := (List.range 17).findSome? fun i =>
    let s := grid (i + 1)
    (pickOnGrid m e (below s) s).map fun c => (c, s)
  match found with
  | some (c, s) => Decimal.normalize c s
  | none => Decimal.normalize (below (grid 17)) (grid 17)

end Binary64

end Throttle
