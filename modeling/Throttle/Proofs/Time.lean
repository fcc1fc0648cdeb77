import Mathlib
import Throttle.Time.Clock

/-! # Durations as a linear order

Durations compare by their nanoseconds, and the `max` and `min` of the library are the
ones of that order. With the instance below, the order lemmas of Mathlib apply to
instants, and a manual clock is seen to move only forward.
-/

namespace Throttle

namespace Duration

instance : LinearOrder Duration where
  toMax := inferInstance
  toMin := inferInstance
  le_refl a := Nat.le_refl a.nanos
  le_trans _ _ _ := Nat.le_trans
  le_antisymm _ _ h h' := Duration.ext (Nat.le_antisymm h h')
  le_total a b := Nat.le_total a.nanos b.nanos
  lt_iff_le_not_ge _ _ := Nat.lt_iff_le_and_not_ge
  toDecidableLE := inferInstance
  min_def _ _ := rfl
  max_def _ _ := rfl

/-- A number of nanoseconds below the bound is a duration as it is. -/
theorem nanos_ofNanos_of_lt {n : Nat} (h : n < limit) : (ofNanos n).nanos = n := by
  simp [ofNanos, h]

end Duration

namespace Clock

theorem now_le_of_advance? {c c' : Clock} {d : Duration} (h : c.advance? d = some c') :
    c.now ≤ c'.now := by
  unfold advance? Duration.add? at h
  split at h
  · cases h
    exact Nat.le_add_right _ _
  · cases h

end Clock

end Throttle
