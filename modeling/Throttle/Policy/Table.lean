import Throttle.Policy

/-!
# Policy tables

A table gives the policy for a caller's tier: callers without a tier get the default,
a known tier its own policy, and an unknown tier the fallback tier's policy when there is
one, else the default. Validating a table checks the default, then each tier; a tier's
fault is reported with its name as a configuration error.
-/

namespace Throttle

/-- Policies by tier, with a default and an optional fallback tier. -/
structure PolicyTable where
  default : Policy
  tiers : List (String × Policy)
  fallback : Option String
deriving Inhabited

namespace PolicyTable

/-- A table with no tiers. -/
def ofDefault (p : Policy) : PolicyTable := ⟨p, [], none⟩

/-- The table with `name` set to `p`, replacing an earlier policy of that tier. -/
def withTier (t : PolicyTable) (name : String) (p : Policy) : PolicyTable :=
  { t with tiers := if t.tiers.any (·.1 == name)
      then t.tiers.map fun (n, q) => if n == name then (n, p) else (n, q)
      else t.tiers ++ [(name, p)] }

/-- The table with unknown tiers resolved through `name`. -/
def withFallback (t : PolicyTable) (name : String) : PolicyTable := { t with fallback := some name }

/-- Free, premium and enterprise tiers per minute (10, 100, 1000), unknown tiers as free,
and 100 per minute for callers without a tier. -/
def standard : PolicyTable :=
  ((((ofDefault Policy.standard).withTier "free" (Policy.ofSecs 10 60)).withTier "premium"
    (Policy.ofSecs 100 60)).withTier "enterprise" (Policy.ofSecs 1000 60)).withFallback "free"

/-- The policy for a tier. -/
def resolve (t : PolicyTable) : Option String → Policy
  | none => t.default
  | some tier =>
    match t.tiers.lookup tier with
    | some p => p
    | none => (t.fallback.bind fun f => t.tiers.lookup f).getD t.default

/-- Check the default policy, then every tier's. -/
def validate (t : PolicyTable) : Except Error Unit := do
  t.default.validate
  t.tiers.forM fun (name, p) =>
    match p.validate with
    | .ok () => pure ()
    | .error (.policy f) => throw (.config (.tierPolicy name f))
    | .error e => throw e

end PolicyTable

end Throttle
