import Throttle.Time.Duration

/-!
# Key stores

A key store keeps one state per caller key, together with the instant it was last
touched and the instant until which the state still carries history (its hold).

Time per key never runs backwards: a key's state is always updated at the later of the
clock and its last touch. A touch records the instant and extends the hold to at least
that instant plus the hold the caller names. Eviction drops a key only when it has been
idle for the whole TTL and its hold has passed, so an evicted key is indistinguishable
from one never seen.
-/

namespace Throttle

/-- A stored state, its last touch and the end of its hold. -/
structure Slot (σ : Type) where
  state : σ
  touched : Duration
  expires : Duration
deriving Inhabited

namespace Slot

/-- Record a touch at `now` that holds the state for `hold` more. -/
def touch {σ : Type} (s : Slot σ) (now hold : Duration) : Slot σ :=
  { s with touched := now, expires := max s.expires (now.addSat hold) }

/-- Whether the slot may be evicted at `now` for the idle TTL `ttl`: idle for at least the
TTL and past its hold. -/
def evictable {σ : Type} (s : Slot σ) (now ttl : Duration) : Bool :=
  decide (ttl ≤ now.subSat s.touched) && decide (s.expires ≤ now)

end Slot

/-- States by key; each key appears at most once. -/
structure KeyStore (σ : Type) where
  slots : List (String × Slot σ)
deriving Inhabited

namespace KeyStore

variable {σ α : Type}

/-- The store with no keys. -/
def empty : KeyStore σ := ⟨[]⟩

/-- The slot of a key. -/
def slot? (s : KeyStore σ) (key : String) : Option (Slot σ) := s.slots.lookup key

/-- The state of a key. -/
def get? (s : KeyStore σ) (key : String) : Option σ := (s.slot? key).map (·.state)

/-- Number of keys. -/
def size (s : KeyStore σ) : Nat := s.slots.length

/-- Replace the slot of `key`, or add it at the end when the key is new. -/
def setSlot (key : String) (slot : Slot σ) : List (String × Slot σ) → List (String × Slot σ)
  | [] => [(key, slot)]
  | (k, x) :: rest => if k = key then (key, slot) :: rest else (k, x) :: setSlot key slot rest

/-- Run `step` on the state of `key` at the later of `clock` and the key's last touch,
after touching it with `hold`. A new key starts from `init` at `clock`. -/
def update (s : KeyStore σ) (key : String) (clock hold : Duration) (init : Duration → σ)
    (step : σ → Duration → σ × α) : KeyStore σ × α :=
  let (slot, now) := match s.slot? key with
    | some slot => (slot, max clock slot.touched)
    | none => (⟨init clock, clock, clock⟩, clock)
  let slot := slot.touch now hold
  let (state, a) := step slot.state now
  (⟨setSlot key { slot with state := state } s.slots⟩, a)

/-- Forget a key. -/
def erase (s : KeyStore σ) (key : String) : KeyStore σ :=
  ⟨s.slots.filter (·.1 != key)⟩

/-- Drop every key evictable at `now` for the idle TTL, with the number dropped. -/
def evictIdle (s : KeyStore σ) (now ttl : Duration) : KeyStore σ × Nat :=
  let kept := s.slots.filter fun (_, slot) => !slot.evictable now ttl
  (⟨kept⟩, s.slots.length - kept.length)

end KeyStore

end Throttle
