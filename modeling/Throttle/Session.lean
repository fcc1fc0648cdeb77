import Throttle.Limiter.Text
import Throttle.Time.Clock

/-!
# Limiter sessions

A session drives one limiter on one manual clock with a list of commands and answers each
command in turn. A command that fails answers with its error and leaves the session as
the failing operation left it; the session goes on with the next command.

A sweep evicts the keys idle for its TTL once, at the current instant; its interval must
be positive.
-/

namespace Throttle

/-- One command to a limiter session. -/
inductive Command where
  | check (key : String) (policy : Policy)
  | checkWithPolicies (key : String) (policies : List (String × Policy))
  | reset (key : String)
  | keyCount
  | evictIdle (ttl : Duration)
  | probe (key : String)
  | advance (by_ : Duration)
  | advanceTo (at_ : Duration)
  | now
  | sweep (interval idleTtl : Duration)
  | describe

/-- The answer to one command. -/
inductive Reply where
  | decision (d : Decision)
  | failure (e : Error)
  | keyCount (n : Nat)
  | evicted (n keyCount : Nat)
  | probe (p : Probe)
  | now (t : Duration)
  | text (s : String)
  | clockOverflow
  | notComposite

/-- A limiter and the clock it reads. -/
structure Session where
  clock : Clock
  limiter : Limiter
deriving Inhabited

namespace Session

/-- Answer a checking step: the decision or the error. -/
def answer (r : Except Error Decision) : Reply :=
  match r with
  | .ok d => .decision d
  | .error e => .failure e

/-- Run one command. -/
def step (s : Session) : Command → Session × Reply
  | .check key p =>
    let (l, r) := s.limiter.check s.clock.now key p
    ({ s with limiter := l }, answer r)
  | .checkWithPolicies key ps =>
    match s.limiter.checkWithPolicies s.clock.now key ps with
    | some (l, r) => ({ s with limiter := l }, answer r)
    | none => (s, .notComposite)
  | .reset key =>
    let l := s.limiter.reset key
    ({ s with limiter := l }, .keyCount l.keyCount)
  | .keyCount => (s, .keyCount s.limiter.keyCount)
  | .evictIdle ttl =>
    let (l, n) := s.limiter.evictIdle s.clock.now ttl
    ({ s with limiter := l }, .evicted n l.keyCount)
  | .probe key => (s, .probe (s.limiter.probe key))
  | .advance d =>
    match s.clock.advance? d with
    | some c => ({ s with clock := c }, .now c.now)
    | none => (s, .clockOverflow)
  | .advanceTo t =>
    let c := s.clock.advanceTo t
    ({ s with clock := c }, .now c.now)
  | .now => (s, .now s.clock.now)
  | .sweep interval ttl =>
    if interval.nanos = 0 then (s, .failure (.config .sweepIntervalZero))
    else
      let (l, _) := s.limiter.evictIdle s.clock.now ttl
      ({ s with limiter := l }, .keyCount l.keyCount)
  | .describe => (s, .text s.limiter.diagnostic)

/-- Run the commands in order, with the answers in the same order. -/
def run (s : Session) : List Command → Session × List Reply
  | [] => (s, [])
  | c :: cs =>
    let (s', r) := s.step c
    let (s'', rs) := s'.run cs
    (s'', r :: rs)

end Session

end Throttle
