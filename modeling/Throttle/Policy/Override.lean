import Throttle.Policy
import Throttle.Json.Decode

/-!
# Policy overrides

A caller may carry an override in its request metadata: `{"requests": n, "window": s}`,
with either field optional and the window in whole seconds. Applied to a base policy it
replaces the fields it sets; a field that is not positive is refused, the requests first.
-/

namespace Throttle

/-- Replacement requests and window seconds for a policy. -/
structure Override where
  requests : Option Int
  window : Option Int
deriving DecidableEq, Inhabited

namespace Override

/-- Read an override from its JSON form. -/
def decode (v : Json.Value) : Json.Decoded Override := do
  let fs ← Json.FieldSet.of "PolicyOverride" ["requests", "window"] v
  let field := Json.Value.toOption Json.Value.toI64
  fs.check [("requests", fun x => do let _ ← field x), ("window", fun x => do let _ ← field x)]
  let requests ← fs.withDefault "requests" none field
  let window ← fs.withDefault "window" none field
  fs.finish
  pure ⟨requests, window⟩

/-- Read an override; a malformed one is a policy error. -/
def ofJson (v : Json.Value) : Except Error Override :=
  (decode v).mapError fun e => .policy (.malformedOverride e.message)

/-- The JSON form, with only the fields that are set. -/
def toJson (o : Override) : Json.Value :=
  .obj ((o.requests.map fun r => [("requests", Json.Value.int r)]).getD [] ++
    (o.window.map fun w => [("window", Json.Value.int w)]).getD [])

/-- The base policy with the override's fields replaced. -/
def apply (o : Override) (base : Policy) : Except Error Policy := do
  let limit ← match o.requests with
    | some r => if r ≤ 0 then throw (.policy (.requestsNotPositive r)) else pure r.toNat
    | none => pure base.limit
  let window ← match o.window with
    | some w => if w ≤ 0 then throw (.policy (.windowNotPositive w)) else pure (Duration.ofSecs w.toNat)
    | none => pure base.window
  pure ⟨limit, window⟩

end Override

end Throttle
