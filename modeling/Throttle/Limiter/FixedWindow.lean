import Throttle.Store
import Throttle.Policy
import Throttle.Decision

/-!
# Fixed windows

Time is cut into windows aligned to multiples of the window length since the epoch. Each
key counts its admitted requests in the current window; the count starts again when a
later window begins. A request is admitted while the count is below the limit, and the
quota is whole again at the end of the window, which a refused request waits for.
-/

namespace Throttle

/-- The start of a key's current window and the requests admitted in it. -/
structure WindowCount where
  start : Duration
  count : Nat
deriving DecidableEq, Inhabited

/-- A fixed-window limiter: a counter per key. -/
structure FixedWindow where
  counters : KeyStore WindowCount
deriving Inhabited

namespace FixedWindow

/-- The name decisions of this discipline carry. -/
def name : String := "fixed_window"

/-- A limiter with no counters. -/
def standard : FixedWindow := ⟨.empty⟩

/-- The start of the window containing `now`: the greatest multiple of the window length
not after it. -/
def windowStart (now window : Duration) : Duration :=
  Duration.ofNanos (now.nanos / window.nanos * window.nanos)

/-- Move the counter to the window of `now` and admit the request if the count allows. -/
def count (p : Policy) (c : WindowCount) (now : Duration) : WindowCount × Decision :=
  let current := windowStart now p.window
  let c := if c.start < current then ⟨current, 0⟩ else c
  let reset := c.start.addSat p.window
  if c.count < p.limit then
    (⟨c.start, c.count + 1⟩, .allow name p.limit (p.limit - (c.count + 1)) reset)
  else
    (c, .deny name p.limit reset (reset.subSat now))

/-- Check one request of `key` at `clock` under the policy. -/
def check (l : FixedWindow) (clock : Duration) (key : String) (p : Policy) :
    Except Error (FixedWindow × Decision) := do
  p.validate
  let (counters, d) := l.counters.update key clock p.window
    (fun now => ⟨windowStart now p.window, 0⟩) (count p)
  pure (⟨counters⟩, d)

/-- The count of `key` in its last window. -/
def count? (l : FixedWindow) (key : String) : Option Nat :=
  (l.counters.get? key).map (·.count)

end FixedWindow

end Throttle
