import Throttle.Time.Seconds
import Throttle.Time.Text
import Throttle.Binary64.Text

/-!
# Decisions

A decision is the answer of one check: admitted with some requests remaining, or refused
with a time to wait. Both carry the limit that decided, the instant at which the quota is
whole again, and the name of the discipline (or the joined names of composite members).
Its wire form, the usage signal, gives the times in binary64 seconds.
-/

namespace Throttle

/-- Admitted with `remaining` requests left, or refused until `retryAfter` has passed. -/
inductive Verdict where
  | admitted (remaining : Nat)
  | refused (retryAfter : Duration)
deriving DecidableEq, Inhabited

/-- The answer of one check. -/
structure Decision where
  verdict : Verdict
  limit : Nat
  resetTime : Duration
  limitType : String
deriving DecidableEq, Inhabited

/-- The wire form of a decision: times in seconds, the wait only when refused. -/
structure Signal where
  allowed : Bool
  remaining : Nat
  resetTime : Binary64
  retryAfter : Option Binary64
  limitType : String
deriving DecidableEq, Inhabited

namespace Decision

/-- An admitting decision. -/
def allow (limitType : String) (limit remaining : Nat) (resetTime : Duration) : Decision :=
  ⟨.admitted remaining, limit, resetTime, limitType⟩

/-- A refusing decision. -/
def deny (limitType : String) (limit : Nat) (resetTime retryAfter : Duration) : Decision :=
  ⟨.refused retryAfter, limit, resetTime, limitType⟩

/-- Whether the request may proceed. -/
def allowed (d : Decision) : Bool :=
  match d.verdict with
  | .admitted _ => true
  | .refused _ => false

/-- Requests left before the next refusal; none after a refusal. -/
def remaining (d : Decision) : Nat :=
  match d.verdict with
  | .admitted r => r
  | .refused _ => 0

/-- How long to wait before retrying, present exactly when refused. -/
def retryAfter? (d : Decision) : Option Duration :=
  match d.verdict with
  | .admitted _ => none
  | .refused w => some w

/-- The reset instant as an RFC 3339 timestamp, when it is in the calendar's range. -/
def resetAt? (d : Decision) : Option String := d.resetTime.rfc3339?

/-- The wire form of the decision. -/
def toSignal (d : Decision) : Signal :=
  ⟨d.allowed, d.remaining, d.resetTime.toSeconds, d.retryAfter?.map Duration.toSeconds, d.limitType⟩

/-- The refusal text shown to callers: the remaining requests and the wait in seconds to
one place (zero when admitted). -/
def denialText (d : Decision) : String :=
  let wait := (d.retryAfter?.getD Duration.zero).toSeconds
  "Rate limit exceeded. " ++ toString d.remaining ++ " requests remaining. Retry after " ++
    Binary64.fixed 1 wait ++ " seconds."

@[simp] theorem allowed_allow (t : String) (l r : Nat) (x : Duration) :
    (allow t l r x).allowed = true := rfl

@[simp] theorem allowed_deny (t : String) (l : Nat) (x w : Duration) :
    (deny t l x w).allowed = false := rfl

@[simp] theorem retryAfter_deny (t : String) (l : Nat) (x w : Duration) :
    (deny t l x w).retryAfter? = some w := rfl

@[simp] theorem retryAfter_allow (t : String) (l r : Nat) (x : Duration) :
    (allow t l r x).retryAfter? = none := rfl

end Decision

end Throttle
