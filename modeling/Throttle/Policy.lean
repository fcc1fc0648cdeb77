import Throttle.Error
import Throttle.Time.Seconds

/-!
# Policies

A policy allows `limit` requests per `window`. Policies are checked when used: a limit
of zero and an empty window are refused, in that order. The steady rate of a policy is
its limit over the window in seconds, in binary64.
-/

namespace Throttle

/-- At most `limit` requests per `window`. -/
structure Policy where
  limit : Nat
  window : Duration
deriving DecidableEq, Inhabited

namespace Policy

/-- A policy with a window of whole seconds. -/
def ofSecs (limit windowSecs : Nat) : Policy := ⟨limit, Duration.ofSecs windowSecs⟩

/-- 100 requests per 60 seconds, for callers that name nothing else. -/
def standard : Policy := ofSecs 100 60

/-- Refuse a zero limit, then an empty window. -/
def validate (p : Policy) : Except Error Unit :=
  if p.limit = 0 then .error (.policy .limitZero)
  else if p.window.nanos = 0 then .error (.policy .windowZero)
  else .ok ()

/-- Requests per second in the long run. -/
def rate (p : Policy) : Binary64 := Binary64.ofNat p.limit / p.window.toSeconds

theorem validate_eq_ok {p : Policy} : p.validate = .ok () ↔ 0 < p.limit ∧ 0 < p.window.nanos := by
  unfold validate
  split
  · simp_all
  · split
    · simp_all
    · simp only [true_iff]; omega

end Policy

end Throttle
