import Throttle.Time.Duration

/-!
# Texts of durations and instants

Two ways to write time. `Duration.compactText` writes a span with the largest unit that
has a nonzero whole part (`60s`, `1.5s`, `250ms`, `1.5µs`, `1ns`), with every significant
fractional digit. `Duration.rfc3339?` writes an instant (a duration since the Unix epoch)
as an RFC 3339 timestamp in UTC, `1970-01-01T00:01:40.250+00:00`, with 3, 6 or 9
fractional digits, the fewest that are exact, and none for a whole second; it is `none`
past the last representable day, 31 December of year 262142.
-/

namespace Throttle

namespace Duration

/-- `n` written with at least `width` digits, padded with zeros on the left. -/
def padded (width n : Nat) : String :=
  let s := toString n
  String.ofList (List.replicate (width - s.length) '0') ++ s

/-- The fractional digits of `frac / 10 ^ width` without trailing zeros. -/
def fractionDigits (width frac : Nat) : String :=
  String.ofList ((padded width frac).toList.reverse.dropWhile (· = '0')).reverse

/-- The whole part, the fraction with its width, and the unit of the compact text. -/
def compactParts (d : Duration) : Nat × Nat × Nat × String :=
  if 0 < d.secs then (d.secs, d.subsecNanos, 9, "s")
  else if 1000000 ≤ d.subsecNanos then (d.subsecNanos / 1000000, d.subsecNanos % 1000000, 6, "ms")
  else if 1000 ≤ d.subsecNanos then (d.subsecNanos / 1000, d.subsecNanos % 1000, 3, "µs")
  else (d.subsecNanos, 0, 0, "ns")

/-- The span in its largest nonzero unit: `60s`, `1.5s`, `250ms`, `0ns`. -/
def compactText (d : Duration) : String :=
  let (whole, frac, width, unit) := d.compactParts
  let digits := fractionDigits width frac
  toString whole ++ (if digits.isEmpty then "" else "." ++ digits) ++ unit

/-- Seconds from the epoch to the end of the last representable day. -/
def lastTimestampSecond : Nat := 8210266876799

/-- Year, month and day of a day number counted from 1970-01-01, in the proleptic
Gregorian calendar. Days are shifted to start the year in March, so the leap day ends
it. -/
def civilOfDays (days : Nat) : Nat × Nat × Nat :=
  let z := days + 719468
  let era := z / 146097
  let doe := z - era * 146097
  let yoe := (doe - doe / 1460 + doe / 36524 - doe / 146096) / 365
  let doy := doe - (365 * yoe + yoe / 4 - yoe / 100)
  let mp := (5 * doy + 2) / 153
  let day := doy - (153 * mp + 2) / 5 + 1
  let month := if mp < 10 then mp + 3 else mp - 9
  let year := yoe + era * 400 + (if month ≤ 2 then 1 else 0)
  (year, month, day)

/-- The fractional seconds of a timestamp: none for a whole second, else 3, 6 or 9 digits,
the fewest that are exact. -/
def timestampFraction (nanos : Nat) : String :=
  if nanos = 0 then ""
  else if nanos % 1000000 = 0 then "." ++ padded 3 (nanos / 1000000)
  else if nanos % 1000 = 0 then "." ++ padded 6 (nanos / 1000)
  else "." ++ padded 9 nanos

/-- The instant as an RFC 3339 UTC timestamp; years past 9999 carry a plus sign. -/
def rfc3339? (d : Duration) : Option String :=
  if lastTimestampSecond < d.secs then none
  else
    let (year, month, day) := civilOfDays (d.secs / 86400)
    let t := d.secs % 86400
    let yearText := if year ≤ 9999 then padded 4 year else "+" ++ padded 4 year
    some (yearText ++ "-" ++ padded 2 month ++ "-" ++ padded 2 day ++ "T" ++
      padded 2 (t / 3600) ++ ":" ++ padded 2 (t % 3600 / 60) ++ ":" ++ padded 2 (t % 60) ++
      timestampFraction d.subsecNanos ++ "+00:00")

end Duration

end Throttle
