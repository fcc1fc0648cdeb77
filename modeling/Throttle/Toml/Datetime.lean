/-!
# TOML dates and times

A TOML date-time is any of the four kinds of RFC 3339 values TOML admits: an offset
date-time, a local date-time, a local date and a local time. Each part is kept as
numbers and written back in a canonical form: the date as `YYYY-MM-DD`, the time as
`HH:MM:SS` with the fraction of a second after a point when it is not zero (nanoseconds,
trailing zeros removed), `T` between date and time, and the offset as `Z` or `+HH:MM` /
`-HH:MM`, a zero offset always with a plus.
-/

namespace Throttle

namespace Toml

/-- A calendar date. -/
structure Date where
  year : Nat
  month : Nat
  day : Nat
deriving DecidableEq, Inhabited

/-- A time of day, to the nanosecond. -/
structure Time where
  hour : Nat
  minute : Nat
  second : Nat
  nanosecond : Nat
deriving DecidableEq, Inhabited

/-- The offset of a date-time from UTC: `Z`, or a number of minutes. -/
inductive Offset where
  | utc
  | minutes (m : Int)
deriving DecidableEq, Inhabited

/-- A date-time with any of its parts. -/
structure Datetime where
  date : Option Date
  time : Option Time
  offset : Option Offset
deriving DecidableEq, Inhabited

/-- Whether a year is a leap year of the Gregorian calendar. -/
def isLeapYear (y : Nat) : Bool := y % 4 == 0 && (y % 100 != 0 || y % 400 == 0)

/-- The number of days of a month of a year. -/
def daysInMonth (year month : Nat) : Nat :=
  if month == 2 then (if isLeapYear year then 29 else 28)
  else if month == 4 || month == 6 || month == 9 || month == 11 then 30
  else 31

/-- The decimal digits of `n`, padded with zeros on the left to `width`. -/
def padded (width n : Nat) : String :=
  let ds := Nat.toDigits 10 n
  String.ofList (List.replicate (width - ds.length) '0' ++ ds)

/-- The date as `YYYY-MM-DD`. -/
def Date.render (d : Date) : String :=
  padded 4 d.year ++ "-" ++ padded 2 d.month ++ "-" ++ padded 2 d.day

/-- The digits of a fraction of a second: nine, less the trailing zeros. -/
def fractionDigits (nanos : Nat) : String :=
  String.ofList ((padded 9 nanos).toList.reverse.dropWhile (· == '0')).reverse

/-- The time as `HH:MM:SS`, with its fraction when it has one. -/
def Time.render (t : Time) : String :=
  padded 2 t.hour ++ ":" ++ padded 2 t.minute ++ ":" ++ padded 2 t.second ++
    (if t.nanosecond == 0 then "" else "." ++ fractionDigits t.nanosecond)

/-- The offset as `Z` or a signed `HH:MM`. -/
def Offset.render : Offset → String
  | .utc => "Z"
  | .minutes m =>
    let sign := if m < 0 then "-" else "+"
    let a := m.natAbs
    sign ++ padded 2 (a / 60) ++ ":" ++ padded 2 (a % 60)

/-- The date-time in its canonical form. -/
def Datetime.render (d : Datetime) : String :=
  let date := match d.date with
    | some x => x.render
    | none => ""
  let time := match d.time with
    | some t => (if d.date.isSome then "T" else "") ++ t.render
    | none => ""
  let offset := match d.offset with
    | some o => o.render
    | none => ""
  date ++ time ++ offset

end Toml

end Throttle
