import Throttle.Time.Duration

/-!
# Manual clocks

A clock that moves only when told: forward by a duration, which fails when the sum is
not below `2 ^ 64` seconds, or to a later instant, where earlier instants are ignored.
-/

namespace Throttle

/-- The current instant of a manually driven clock. -/
structure Clock where
  now : Duration
deriving DecidableEq, Inhabited

namespace Clock

/-- The clock moved forward by `by`, or `none` when the instant would overflow. -/
def advance? (c : Clock) (by_ : Duration) : Option Clock :=
  (c.now.add? by_).map Clock.mk

/-- The clock moved to `at_` when that is later, else unchanged. -/
def advanceTo (c : Clock) (at_ : Duration) : Clock :=
  if c.now < at_ then ⟨at_⟩ else c

theorem now_le_advanceTo (c : Clock) (at_ : Duration) : c.now ≤ (c.advanceTo at_).now := by
  unfold advanceTo
  split
  · rename_i h
    exact Nat.le_of_lt h
  · exact Nat.le_refl _

end Clock

end Throttle
