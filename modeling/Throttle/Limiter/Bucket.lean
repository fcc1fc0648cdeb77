import Throttle.Store
import Throttle.Policy
import Throttle.Decision

/-!
# Token buckets

Each key owns a bucket of at most `limit × multiplier` tokens, in binary64. The bucket
refills continuously at the policy's rate, and an admitted request takes one token, so
bursts up to the capacity pass while the long-run rate stays at `limit / window`.

On every check the bucket is refilled for the time since its last refill, capped at the
capacity, and its refill time moves to now, also when the request is refused. A refused
request waits until one whole token has refilled; the quota is whole again when the
bucket is full. A new bucket starts full, and a bucket is held for the time a refill from
empty takes, so an evicted bucket would have been full anyway.
-/

namespace Throttle

/-- Tokens in a bucket and the instant of its last refill. -/
structure Bucket where
  tokens : Binary64
  lastRefill : Duration
deriving DecidableEq, Inhabited

/-- A token-bucket limiter: the capacity multiplier and a bucket per key. -/
structure TokenBucket where
  multiplier : Binary64
  buckets : KeyStore Bucket
deriving Inhabited

namespace TokenBucket

/-- The name decisions of this discipline carry. -/
def name : String := "token_bucket"

/-- Buckets hold twice the limit unless configured otherwise. -/
def defaultMultiplier : Binary64 := 2

/-- A limiter with the default multiplier and no buckets. -/
def standard : TokenBucket := ⟨defaultMultiplier, .empty⟩

/-- A limiter whose buckets hold `limit × m` tokens; `m` must be finite and positive. -/
def create (m : Binary64) : Except Error TokenBucket :=
  if !m.isFinite || m.le 0 then .error (.config (.multiplierInvalid m))
  else .ok ⟨m, .empty⟩

/-- The capacity of a bucket under a policy. -/
def capacity (b : TokenBucket) (p : Policy) : Binary64 := Binary64.ofNat p.limit * b.multiplier

/-- Refill a bucket at `now` and try to take one token. -/
def take (p : Policy) (capacity rate : Binary64) (bucket : Bucket) (now : Duration) :
    Bucket × Decision :=
  let elapsed := (now.subSat bucket.lastRefill).toSeconds
  let tokens := Binary64.minNum (bucket.tokens + elapsed * rate) capacity
  let full := now.addSat (Duration.ofSeconds ((capacity - tokens) / rate))
  if Binary64.le 1 tokens then
    let tokens := tokens - 1
    let full := now.addSat (Duration.ofSeconds ((capacity - tokens) / rate))
    (⟨tokens, now⟩, .allow name p.limit tokens.floor.toNatClamped full)
  else
    (⟨tokens, now⟩, .deny name p.limit full (Duration.ofSeconds ((1 - tokens) / rate)))

/-- Check one request of `key` at `clock` under the policy. -/
def check (b : TokenBucket) (clock : Duration) (key : String) (p : Policy) :
    Except Error (TokenBucket × Decision) := do
  p.validate
  let rate := p.rate
  let capacity := b.capacity p
  let hold := Duration.ofSeconds (capacity / rate)
  let (buckets, d) := b.buckets.update key clock hold (fun now => ⟨capacity, now⟩)
    (take p capacity rate)
  pure (⟨b.multiplier, buckets⟩, d)

/-- Tokens stored for `key`, without a refill. -/
def tokens? (b : TokenBucket) (key : String) : Option Binary64 :=
  (b.buckets.get? key).map (·.tokens)

end TokenBucket

end Throttle
