/-!
# Durations

A duration is a whole number of nanoseconds below `2 ^ 64` seconds; instants are durations
since the Unix epoch. Sums saturate at the largest duration and differences at zero, so
time arithmetic never fails; `Duration.add?` is the checked sum for the one place (moving
a clock) where overflow is an error.
-/

namespace Throttle

/-- Nanoseconds in a second. -/
def nanosPerSecond : Nat := 1000000000

/-- A span of time in nanoseconds, below `2 ^ 64` seconds. -/
structure Duration where
  nanos : Nat
  nanos_lt : nanos < Nat.pow 2 64 * 1000000000
deriving DecidableEq

namespace Duration

/-- The bound on nanoseconds: `2 ^ 64` seconds. -/
def limit : Nat := Nat.pow 2 64 * 1000000000

/-- The duration of `n` nanoseconds, saturating at the largest duration. -/
def ofNanos (n : Nat) : Duration :=
  if h : n < limit then ⟨n, h⟩ else ⟨limit - 1, by decide⟩

/-- The empty duration. -/
def zero : Duration := ⟨0, by decide⟩

/-- The largest duration: `2 ^ 64 - 1` seconds and 999999999 nanoseconds. -/
def max : Duration := ⟨limit - 1, by decide⟩

instance : Inhabited Duration := ⟨zero⟩

/-- `s` whole seconds (saturating). -/
def ofSecs (s : Nat) : Duration := ofNanos (s * nanosPerSecond)

/-- `ms` milliseconds (saturating). -/
def ofMillis (ms : Nat) : Duration := ofNanos (ms * 1000000)

/-- Whole seconds. -/
def secs (d : Duration) : Nat := d.nanos / nanosPerSecond

/-- Nanoseconds past the whole seconds. -/
def subsecNanos (d : Duration) : Nat := d.nanos % nanosPerSecond

instance : LE Duration := ⟨fun a b => a.nanos ≤ b.nanos⟩
instance : LT Duration := ⟨fun a b => a.nanos < b.nanos⟩
instance (a b : Duration) : Decidable (a ≤ b) := inferInstanceAs (Decidable (a.nanos ≤ b.nanos))
instance (a b : Duration) : Decidable (a < b) := inferInstanceAs (Decidable (a.nanos < b.nanos))
instance : Max Duration := ⟨fun a b => if a ≤ b then b else a⟩
instance : Min Duration := ⟨fun a b => if a ≤ b then a else b⟩

/-- Sum, saturating at `Duration.max`. -/
def addSat (a b : Duration) : Duration := ofNanos (a.nanos + b.nanos)

/-- Difference, saturating at zero. -/
def subSat (a b : Duration) : Duration :=
  ⟨a.nanos - b.nanos, Nat.lt_of_le_of_lt (Nat.sub_le _ _) a.nanos_lt⟩

/-- Sum, or `none` when it is not below `2 ^ 64` seconds. -/
def add? (a b : Duration) : Option Duration :=
  if h : a.nanos + b.nanos < limit then some ⟨a.nanos + b.nanos, h⟩ else none

/-- Whether the duration is empty. -/
def isZero (d : Duration) : Bool := d.nanos == 0

@[simp] theorem nanos_ofNanos (n : Nat) : (ofNanos n).nanos = Nat.min n (limit - 1) := by
  unfold ofNanos
  split <;> simp only [Nat.min_def] <;> split <;> omega

@[simp] theorem nanos_subSat (a b : Duration) : (subSat a b).nanos = a.nanos - b.nanos := rfl

@[simp] theorem nanos_addSat (a b : Duration) :
    (addSat a b).nanos = Nat.min (a.nanos + b.nanos) (limit - 1) := nanos_ofNanos _

theorem le_iff_nanos {a b : Duration} : a ≤ b ↔ a.nanos ≤ b.nanos := Iff.rfl

theorem lt_iff_nanos {a b : Duration} : a < b ↔ a.nanos < b.nanos := Iff.rfl

theorem ext {a b : Duration} (h : a.nanos = b.nanos) : a = b := by
  cases a; cases b; cases h; rfl

end Duration

end Throttle
