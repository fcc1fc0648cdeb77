import Throttle.Limiter.Bucket
import Throttle.Limiter.SlidingLog
import Throttle.Limiter.FixedWindow

/-!
# Limiters

A limiter is one of the three disciplines or a composite of named members, each with an
optional policy of its own. All of them read one clock, passed to every operation.

A composite check resolves and validates every member's policy first, then checks the
members in order, and combines their decisions: admitted when all admit, under the
smallest limit and remaining count; otherwise refused by the refusing members, with the
latest reset and the longest wait among them. A member that fails after earlier members
were checked leaves those earlier checks in place (only a composite member can fail at that
point), so `Limiter.check` returns the limiter together with the outcome.
-/

namespace Throttle

mutual

/-- A limiter: a discipline with its per-key states, or a composite of members. -/
inductive Limiter where
  | tokenBucket (l : TokenBucket)
  | slidingLog (l : SlidingLog)
  | fixedWindow (l : FixedWindow)
  | composite (members : List Member)

/-- A named member of a composite, with the policy it uses instead of the caller's. -/
inductive Member where
  | mk (name : String) (policy : Option Policy) (limiter : Limiter)

end

instance : Inhabited Limiter := ⟨.fixedWindow .standard⟩

namespace Member

/-- The member's name. -/
def name : Member → String
  | mk n _ _ => n

/-- The member's own policy. -/
def policy : Member → Option Policy
  | mk _ p _ => p

/-- The member's limiter. -/
def limiter : Member → Limiter
  | mk _ _ l => l

end Member

/-- What one probe of a key shows: a bucket's tokens, a log's length, a window's count, or
the members' probes. -/
inductive Probe where
  | tokens (t : Option Binary64)
  | logLength (n : Option Nat)
  | count (n : Option Nat)
  | members (ps : List (String × Probe))

namespace Limiter

/-- The name of the discipline. -/
def algorithm : Limiter → String
  | tokenBucket _ => TokenBucket.name
  | slidingLog _ => SlidingLog.name
  | fixedWindow _ => FixedWindow.name
  | composite _ => "composite"

/-- Combine the members' decisions: admitted when all admit, with all their names;
otherwise refused by the refusing members. The limit and remaining count are the least
over all members. -/
def combine (results : List (String × Decision)) : Decision :=
  let denied := results.filter fun r => !r.2.allowed
  let limit := ((results.map (·.2.limit)).min?).getD 0
  let remaining := ((results.map (·.2.remaining)).min?).getD 0
  let names (rs : List (String × Decision)) := ",".intercalate (rs.map (·.1))
  let latest (rs : List (String × Decision)) := ((rs.map (·.2.resetTime)).max?).getD .zero
  if denied.isEmpty then
    .allow (names results) limit remaining (latest results)
  else
    let wait := ((denied.filterMap (·.2.retryAfter?)).max?).getD .zero
    .deny (names denied) limit (latest denied) wait

/-- A discipline's check as a limiter step: on an error the limiter is unchanged. -/
def lift {τ : Type} (wrap : τ → Limiter) (self : Limiter) :
    Except Error (τ × Decision) → Limiter × Except Error Decision
  | .ok (l, d) => (wrap l, .ok d)
  | .error e => (self, .error e)

/-- Resolve and validate every member's policy, in member order. -/
def memberPolicies (resolve : Member → Except Error Policy) (ms : List Member) :
    Except Error (List Policy) :=
  ms.mapM fun m => do
    let p ← resolve m
    p.validate
    pure p

mutual

/-- Check one request of `key` at `clock` under the policy. -/
def check (clock : Duration) (key : String) (p : Policy) : Limiter → Limiter × Except Error Decision
  | tokenBucket l => lift tokenBucket (tokenBucket l) (l.check clock key p)
  | slidingLog l => lift slidingLog (slidingLog l) (l.check clock key p)
  | fixedWindow l => lift fixedWindow (fixedWindow l) (l.check clock key p)
  | composite ms => evaluate clock key (fun m => .ok (m.policy.getD p)) ms

/-- A composite check with the given policy resolution. -/
def evaluate (clock : Duration) (key : String) (resolve : Member → Except Error Policy)
    (ms : List Member) : Limiter × Except Error Decision :=
  if ms.isEmpty then (composite ms, .error (.config .compositeEmpty))
  else
    match memberPolicies resolve ms with
    | .error e => (composite ms, .error e)
    | .ok ps =>
      let (ms', out) := checkMembers clock key ms ps []
      (composite ms', out.map combine)

/-- Check the members in order with their policies, stopping at the first error. -/
def checkMembers (clock : Duration) (key : String) :
    List Member → List Policy → List (String × Decision) →
      List Member × Except Error (List (String × Decision))
  | Member.mk n q l :: ms, p :: ps, acc =>
    match check clock key p l with
    | (l', .ok d) =>
      let (ms', out) := checkMembers clock key ms ps ((n, d) :: acc)
      (Member.mk n q l' :: ms', out)
    | (l', .error e) => (Member.mk n q l' :: ms, .error e)
  | ms, _, acc => (ms, .ok acc.reverse)

end

/-- Check a composite with a policy per member name; a member without one uses its own,
and a member with neither is an error. Limiters that are not composites have no
members to name. -/
def checkWithPolicies (clock : Duration) (key : String) (policies : List (String × Policy)) :
    Limiter → Option (Limiter × Except Error Decision)
  | composite ms =>
    some (evaluate clock key (fun m =>
      match (policies.lookup m.name).orElse (fun _ => m.policy) with
      | some p => .ok p
      | none => .error (.policy (.noMemberPolicy m.name))) ms)
  | _ => none

mutual

/-- Forget `key` everywhere. -/
def reset (key : String) : Limiter → Limiter
  | tokenBucket l => tokenBucket { l with buckets := l.buckets.erase key }
  | slidingLog l => slidingLog { l with logs := l.logs.erase key }
  | fixedWindow l => fixedWindow ⟨l.counters.erase key⟩
  | composite ms => composite (resetMembers key ms)

/-- Forget `key` in every member. -/
def resetMembers (key : String) : List Member → List Member
  | [] => []
  | Member.mk n q l :: ms => Member.mk n q (reset key l) :: resetMembers key ms

end

mutual

/-- Number of keys with state; for a composite, the most of any member. -/
def keyCount : Limiter → Nat
  | tokenBucket l => l.buckets.size
  | slidingLog l => l.logs.size
  | fixedWindow l => l.counters.size
  | composite ms => membersKeyCount ms

/-- The most keys of any member. -/
def membersKeyCount : List Member → Nat
  | [] => 0
  | Member.mk _ _ l :: ms => max (keyCount l) (membersKeyCount ms)

end

mutual

/-- Evict the keys idle at `now` for `ttl`, with the number evicted; for a composite, the
sum over its members. -/
def evictIdle (now ttl : Duration) : Limiter → Limiter × Nat
  | tokenBucket l =>
    let (s, n) := l.buckets.evictIdle now ttl
    (tokenBucket { l with buckets := s }, n)
  | slidingLog l =>
    let (s, n) := l.logs.evictIdle now ttl
    (slidingLog { l with logs := s }, n)
  | fixedWindow l =>
    let (s, n) := l.counters.evictIdle now ttl
    (fixedWindow ⟨s⟩, n)
  | composite ms =>
    let (ms', n) := evictMembers now ttl ms
    (composite ms', n)

/-- Evict in every member. -/
def evictMembers (now ttl : Duration) : List Member → List Member × Nat
  | [] => ([], 0)
  | Member.mk name q l :: ms =>
    let (l', a) := evictIdle now ttl l
    let (ms', b) := evictMembers now ttl ms
    (Member.mk name q l' :: ms', a + b)

end

mutual

/-- What the limiter holds for `key`. -/
def probe (key : String) : Limiter → Probe
  | tokenBucket l => .tokens (l.tokens? key)
  | slidingLog l => .logLength (l.length? key)
  | fixedWindow l => .count (l.count? key)
  | composite ms => .members (probeMembers key ms)

/-- The members' probes by name. -/
def probeMembers (key : String) : List Member → List (String × Probe)
  | [] => []
  | Member.mk n _ l :: ms => (n, probe key l) :: probeMembers key ms

end

end Limiter

end Throttle
