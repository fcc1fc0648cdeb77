import Throttle.Store
import Throttle.Policy
import Throttle.Decision

/-!
# Sliding logs

Each key keeps the instants of its admitted requests, oldest first. A check first drops
the instants at or before `now - window`; a request is admitted while fewer than `limit`
instants remain, and its instant is appended. The log is capped at a number of entries per
key, dropping the oldest. The quota is whole again one window after the oldest kept
instant, and a refused request waits until then.
-/

namespace Throttle

/-- A sliding-log limiter: the cap on entries per key and a log per key. -/
structure SlidingLog where
  maxEntries : Nat
  logs : KeyStore (List Duration)
deriving Inhabited

namespace SlidingLog

/-- The name decisions of this discipline carry. -/
def name : String := "sliding_window"

/-- Entries kept per key unless configured otherwise. -/
def defaultMaxEntries : Nat := 10000

/-- A limiter with the default cap and no logs. -/
def standard : SlidingLog := ⟨defaultMaxEntries, .empty⟩

/-- A limiter keeping at most `maxEntries` instants per key; the cap must be positive. -/
def create (maxEntries : Nat) : Except Error SlidingLog :=
  if maxEntries = 0 then .error (.config .maxEntriesZero) else .ok ⟨maxEntries, .empty⟩

/-- The instants still inside the window ending at `now`. -/
def prune (window now : Duration) (log : List Duration) : List Duration :=
  if window ≤ now then log.dropWhile (fun t => decide (t ≤ now.subSat window)) else log

/-- The log without its oldest entries beyond the cap. -/
def trim (maxEntries : Nat) (log : List Duration) : List Duration :=
  log.drop (log.length - maxEntries)

/-- Prune the log at `now` and admit the request if the window has room. -/
def record (maxEntries : Nat) (p : Policy) (log : List Duration) (now : Duration) :
    List Duration × Decision :=
  let log := prune p.window now log
  let count := log.length
  if count < p.limit then
    let log := trim maxEntries (log ++ [now])
    let oldest := log.head?.getD now
    (log, .allow name p.limit (p.limit - count - 1) (oldest.addSat p.window))
  else
    let reset := (log.head?.getD now).addSat p.window
    (log, .deny name p.limit reset (reset.subSat now))

/-- Check one request of `key` at `clock` under the policy. -/
def check (l : SlidingLog) (clock : Duration) (key : String) (p : Policy) :
    Except Error (SlidingLog × Decision) := do
  p.validate
  let (logs, d) := l.logs.update key clock p.window (fun _ => []) (record l.maxEntries p)
  pure (⟨l.maxEntries, logs⟩, d)

/-- Entries in the log of `key`. -/
def length? (l : SlidingLog) (key : String) : Option Nat :=
  (l.logs.get? key).map List.length

end SlidingLog

end Throttle
