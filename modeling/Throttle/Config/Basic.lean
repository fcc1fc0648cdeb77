import Throttle.Limiter.Basic
import Throttle.Policy.Table
import Throttle.Json.Value

/-!
# Service configuration

A configuration chooses the limiter discipline (or a composite of named members), the
policies by tier, and the eviction of idle keys. Every field has a default, so an empty
configuration is a token bucket at 100 requests a minute that evicts keys idle for an
hour, once a minute.

`Config.validate` refuses, in this order, a policy table that cannot be used, a
multiplier that is not a finite positive number, a zero per-key cap, a zero sweep
interval when sweeping is enabled, and a composite without members, with a composite
member, or with a member that sets only half of its policy or an unusable one. A valid
configuration builds its limiter without error.
-/

namespace Throttle

/-- The limiting disciplines a configuration can name. -/
inductive Algorithm where
  | tokenBucket
  | slidingWindow
  | fixedWindow
  | composite
deriving DecidableEq, Inhabited

namespace Algorithm

/-- The name of each discipline, in declaration order. -/
def names : List (String × Algorithm) :=
  [("token_bucket", tokenBucket), ("sliding_window", slidingWindow),
    ("fixed_window", fixedWindow), ("composite", composite)]

/-- The name a configuration uses for the discipline. -/
def name : Algorithm → String
  | tokenBucket => "token_bucket"
  | slidingWindow => "sliding_window"
  | fixedWindow => "fixed_window"
  | composite => "composite"

/-- The discipline of a name. -/
def ofName? (s : String) : Option Algorithm := names.lookup s

end Algorithm

/-- A member of a composite: its name, discipline and optional own policy, given as a
limit and a window in seconds that must be set together. -/
structure MemberSpec where
  name : String
  algorithm : Algorithm
  requests : Option Nat
  windowSecs : Option Nat
deriving Inhabited

/-- A tier's limit over a window in seconds. -/
structure TierSpec where
  requests : Nat
  windowSecs : Nat
deriving Inhabited

/-- The limiter section: the discipline and its tuning. -/
structure LimiterSpec where
  algorithm : Algorithm := .tokenBucket
  capacityMultiplier : Binary64 := TokenBucket.defaultMultiplier
  maxEntriesPerKey : Nat := SlidingLog.defaultMaxEntries
  members : List MemberSpec := []
deriving Inhabited

/-- The policy section: the default policy, the tiers and the fallback tier. A tier
named twice keeps its last entry. -/
structure PolicySpec where
  requests : Nat := 100
  windowSecs : Nat := 60
  tiers : List (String × TierSpec) := []
  fallbackTier : Option String := none
deriving Inhabited

/-- The eviction section: whether idle keys are swept, after how long and how often. -/
structure EvictionSpec where
  enabled : Bool := true
  idleTtlSecs : Nat := 3600
  sweepIntervalSecs : Nat := 60
deriving Inhabited

/-- A service configuration. -/
structure Config where
  limiter : LimiterSpec := {}
  policy : PolicySpec := {}
  eviction : EvictionSpec := {}
deriving Inhabited

namespace MemberSpec

/-- The member's own policy: both halves or neither. -/
def policy? (m : MemberSpec) : Except Error (Option Policy) :=
  match m.requests, m.windowSecs with
  | some r, some w => .ok (some (Policy.ofSecs r w))
  | none, none => .ok none
  | _, _ => .error (.config (.memberPolicyPartial m.name))

/-- The member as it is written out. -/
def toJson (m : MemberSpec) : Json.Value :=
  .obj [("algorithm", .str m.algorithm.name), ("name", .str m.name),
    ("requests", .opt .nat m.requests), ("window_secs", .opt .nat m.windowSecs)]

end MemberSpec

/-- Insert a tier, replacing an earlier entry of the same name in place. -/
def TierSpec.insert (name : String) (t : TierSpec) :
    List (String × TierSpec) → List (String × TierSpec)
  | [] => [(name, t)]
  | (n, u) :: rest => if n = name then (name, t) :: rest else (n, u) :: insert name t rest

/-- The tier as it is written out. -/
def TierSpec.toJson (t : TierSpec) : Json.Value :=
  .obj [("requests", .nat t.requests), ("window_secs", .nat t.windowSecs)]

namespace Config

/-- The policy of callers without a tier. -/
def defaultPolicy (c : Config) : Policy := Policy.ofSecs c.policy.requests c.policy.windowSecs

/-- The policy table of the configuration: the default policy, every tier, and the
fallback tier, which must be one of the tiers. The table is validated. -/
def policyTable (c : Config) : Except Error PolicyTable := do
  let table := c.policy.tiers.foldl
    (fun t (name, tier) => t.withTier name (Policy.ofSecs tier.requests tier.windowSecs))
    (PolicyTable.ofDefault c.defaultPolicy)
  let table ← match c.policy.fallbackTier with
    | none => pure table
    | some f =>
      if c.policy.tiers.any (·.1 == f) then pure (table.withFallback f)
      else throw (.config (.fallbackUndefined f))
  table.validate
  pure table

/-- Check a composite's members in order. -/
def validateMembers (ms : List MemberSpec) : Except Error Unit :=
  ms.forM fun m => do
    if m.algorithm = .composite then throw (.config (.memberComposite m.name))
    match ← m.policy? with
    | some p =>
      match p.validate with
      | .error (.policy f) => throw (.config (.memberPolicy m.name f))
      | r => r
    | none => pure ()

/-- Refuse configurations that would fail when used. -/
def validate (c : Config) : Except Error Unit := do
  let _ ← c.policyTable
  let m := c.limiter.capacityMultiplier
  if !m.isFinite || m.le 0 then throw (.config (.multiplierNotPositive m))
  if c.limiter.maxEntriesPerKey = 0 then throw (.config .maxEntriesZero)
  if c.eviction.enabled && c.eviction.sweepIntervalSecs = 0 then
    throw (.config .sweepIntervalSecsZero)
  if c.limiter.algorithm = .composite then
    if c.limiter.members.isEmpty then throw (.config .membersMissing)
    validateMembers c.limiter.members

/-- The limiter of one discipline; a composite cannot be a member. -/
def buildSingle (c : Config) : Algorithm → Except Error Limiter
  | .tokenBucket => Limiter.tokenBucket <$> TokenBucket.create c.limiter.capacityMultiplier
  | .slidingWindow => Limiter.slidingLog <$> SlidingLog.create c.limiter.maxEntriesPerKey
  | .fixedWindow => pure (.fixedWindow .standard)
  | .composite => throw (.config .nestedComposite)

/-- The configured limiter, with no keys. -/
def buildLimiter (c : Config) : Except Error Limiter :=
  match c.limiter.algorithm with
  | .composite => do
    let ms ← c.limiter.members.mapM fun m => do
      let l ← c.buildSingle m.algorithm
      let p ← m.policy?
      pure (Member.mk m.name p l)
    pure (.composite ms)
  | a => c.buildSingle a

/-- How long a key may stay idle before it is evicted. -/
def idleTtl (c : Config) : Duration := Duration.ofSecs c.eviction.idleTtlSecs

/-- How often idle keys are swept. -/
def sweepInterval (c : Config) : Duration := Duration.ofSecs c.eviction.sweepIntervalSecs

/-- The configuration as it is written out. -/
def toJson (c : Config) : Json.Value :=
  .obj [
    ("eviction", .obj [("enabled", .bool c.eviction.enabled),
      ("idle_ttl_secs", .nat c.eviction.idleTtlSecs),
      ("sweep_interval_secs", .nat c.eviction.sweepIntervalSecs)]),
    ("limiter", .obj [("algorithm", .str c.limiter.algorithm.name),
      ("capacity_multiplier", .ofBinary64 c.limiter.capacityMultiplier),
      ("max_entries_per_key", .nat c.limiter.maxEntriesPerKey),
      ("members", .arr (c.limiter.members.map MemberSpec.toJson))]),
    ("policy", .obj [("fallback_tier", .opt .str c.policy.fallbackTier),
      ("requests", .nat c.policy.requests),
      ("tiers", .obj (c.policy.tiers.foldl (fun fs (n, t) => Json.Value.insertField n t.toJson fs) [])),
      ("window_secs", .nat c.policy.windowSecs)])]

end Config

end Throttle
