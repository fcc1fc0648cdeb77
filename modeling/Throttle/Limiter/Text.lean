import Throttle.Limiter.Basic
import Throttle.Text.Quote
import Throttle.Time.Text

/-!
# Diagnostic texts of limiters

The one-line description of a limiter and of a policy, as shown in diagnostics:
`TokenBucket(TokenBucketLimiter { capacity_multiplier: 2.0, keys: 1 })`,
`Policy { limit: 1, window: 1.5s }`. A composite lists its members with their names,
limiters and policies.
-/

namespace Throttle

/-- Numbers in diagnostics: positional for point positions in `(-4, 16]`, with an exponent
otherwise; whole numbers keep `.0`. -/
def diagnosticLayout : Layout := ⟨some (-4, 16), true, "NaN", "inf"⟩

/-- Text of a record: its name and its fields in braces. -/
def recordText (name : String) (fields : List (String × String)) : String :=
  name ++ " \x7b " ++ ", ".intercalate (fields.map fun (k, v) => k ++ ": " ++ v) ++ " \x7d"

/-- Text of an optional value. -/
def optionText {α : Type} (f : α → String) : Option α → String
  | some a => "Some(" ++ f a ++ ")"
  | none => "None"

/-- Diagnostic text of a policy. -/
def Policy.diagnostic (p : Policy) : String :=
  recordText "Policy" [("limit", toString p.limit), ("window", p.window.compactText)]

namespace Limiter

mutual

/-- Diagnostic text of a limiter: its discipline, settings and number of keys. -/
def diagnostic : Limiter → String
  | tokenBucket l => "TokenBucket(" ++ recordText "TokenBucketLimiter"
      [("capacity_multiplier", diagnosticLayout.render l.multiplier),
       ("keys", toString l.buckets.size)] ++ ")"
  | slidingLog l => "SlidingWindow(" ++ recordText "SlidingWindowLimiter"
      [("max_entries_per_key", toString l.maxEntries), ("keys", toString l.logs.size)] ++ ")"
  | fixedWindow l => "FixedWindow(" ++ recordText "FixedWindowLimiter"
      [("keys", toString l.counters.size)] ++ ")"
  | composite ms => "Composite(" ++ recordText "CompositeLimiter"
      [("members", "[" ++ membersDiagnostic ms ++ "]")] ++ ")"

/-- Diagnostic texts of members, separated by commas. -/
def membersDiagnostic : List Member → String
  | [] => ""
  | [m] => memberDiagnostic m
  | m :: ms => memberDiagnostic m ++ ", " ++ membersDiagnostic ms

/-- Diagnostic text of one member. -/
def memberDiagnostic : Member → String
  | Member.mk n q l => recordText "CompositeMember"
      [("name", Text.quote n), ("limiter", diagnostic l), ("policy", optionText Policy.diagnostic q)]

end

end Limiter

end Throttle
