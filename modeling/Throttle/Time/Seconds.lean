import Throttle.Time.Duration
import Throttle.Binary64.Basic

/-!
# Durations as binary64 seconds

`Duration.toSeconds` reads a duration as a number of seconds: the whole seconds rounded to
binary64, plus the nanoseconds divided by `10 ^ 9`, each step rounded once.
`Duration.ofSeconds` goes back: not-a-number and values not above zero give the empty
duration, values of `2 ^ 64` seconds or more the largest one, and all others the nearest
whole number of nanoseconds, a half going to the even neighbour.
-/

namespace Throttle

namespace Duration

/-- The duration in seconds as a binary64 value. -/
def toSeconds (d : Duration) : Binary64 :=
  Binary64.ofNat d.secs + Binary64.ofNat d.subsecNanos / Binary64.ofNat nanosPerSecond

/-- The duration nearest to a number of seconds, clamped to `[zero, max]`. -/
def ofSeconds : Binary64 → Duration
  | .nan => zero
  | .inf true => zero
  | .inf false => max
  | .finite true _ _ => zero
  | .finite false m e =>
    if Nat.pow 2 64 * Nat.pow 2 (-e).toNat ≤ m * Nat.pow 2 e.toNat then max
    else ofNanos (Binary64.roundHalfEven (m * nanosPerSecond * Nat.pow 2 e.toNat) (Nat.pow 2 (-e).toNat))

end Duration

end Throttle
