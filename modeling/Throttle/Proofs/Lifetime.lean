import Mathlib
import Throttle.Proofs.Store

/-! # The life of a key in a store

A store is driven by three operations (`KeyStore.Op`): an update of one key at a clock
reading with a hold, forgetting a key, and evicting the idle keys. From the empty store every
run keeps each key at most once, and a stored key's slot depends on its lifetime alone: the
operations since the key was last absent, of which only the key's own updates count
(`KeyStore.Visit.lifetime`).

The first update of a lifetime makes the state with its `init` at its clock reading, and no
later update calls `init` again. Each update runs its step at the later of its clock reading
and the instant of the update before, so a key's time never runs backwards whatever the clock
does (`KeyStore.Visit.times`). The slot is touched at the last of these instants, and held
until the latest of the instants plus their holds, never before its creation. Eviction drops
exactly the slots idle for the whole TTL and past their hold, counts them, and leaves every
other slot as it was (`KeyStore.runOps_bookkeeping`).
-/

namespace Throttle

variable {σ : Type}

/-- A slot may be evicted exactly when it has been idle for the whole TTL and its hold has
passed. -/
theorem Slot.evictable_eq (x : Slot σ) (now ttl : Duration) :
    x.evictable now ttl = decide (ttl ≤ now.subSat x.touched ∧ x.expires ≤ now) := by
  simp [Slot.evictable]

namespace KeyStore

/-- One operation on a store: an update of a key at a clock reading with a hold, running a
step with an answer of its own type; forgetting a key; evicting the idle keys at an instant. -/
inductive Op (σ : Type) : Type 1 where
  | update (key : String) (clock hold : Duration) (init : Duration → σ) {α : Type}
      (step : σ → Duration → σ × α)
  | erase (key : String)
  | evict (now ttl : Duration)

/-- The store after one operation. -/
def apply (s : KeyStore σ) : Op σ → KeyStore σ
  | .update key clock hold init step => (s.update key clock hold init step).1
  | .erase key => s.erase key
  | .evict now ttl => (s.evictIdle now ttl).1

/-- The store after a run of operations. -/
def runOps (s : KeyStore σ) (ops : List (Op σ)) : KeyStore σ := ops.foldl apply s

/-- What an update asks of its key's slot: the clock reading, the hold, how a new state is
made and how the state steps. -/
structure Visit (σ : Type) where
  clock : Duration
  hold : Duration
  init : Duration → σ
  step : σ → Duration → σ

/-- The visit an operation pays to `key`: an update of `key` pays one, nothing else does. -/
def Op.visit? (key : String) : Op σ → Option (Visit σ)
  | .update k clock hold init step =>
    if k = key then some ⟨clock, hold, init, fun x t => (step x t).1⟩ else none
  | _ => none

namespace Visit

/-- The instants at which visits run their steps: each the later of its clock reading and
the instant of the visit before, the first measured against `prev`. -/
def times : Duration → List (Visit σ) → List Duration
  | _, [] => []
  | prev, v :: vs => max v.clock prev :: times (max v.clock prev) vs

/-- The slot a lifetime leaves, from its first visit `v` and the visits `vs` after it: `v`
makes the state with its `init` at its clock reading, then every visit steps the state at its
instant; the slot is touched at the last instant, and held until the latest instant plus its
visit's hold, and not before its creation. -/
def lifetime (v : Visit σ) (vs : List (Visit σ)) : Slot σ :=
  let steps := (v :: vs).zip (times v.clock (v :: vs))
  { state := steps.foldl (fun x p => p.1.step x p.2) (v.init v.clock)
    touched := (times v.clock (v :: vs)).getLast?.getD v.clock
    expires := (steps.map fun p => p.2.addSat p.1.hold).foldl max v.clock }

theorem length_times (prev : Duration) (vs : List (Visit σ)) : (times prev vs).length = vs.length := by
  induction vs generalizing prev with
  | nil => rfl
  | cons v vs ih => simp [times, ih]

theorem times_append_singleton (prev : Duration) (vs : List (Visit σ)) (w : Visit σ) :
    times prev (vs ++ [w]) = times prev vs ++ [max w.clock ((times prev vs).getLast?.getD prev)] := by
  induction vs generalizing prev with
  | nil => rfl
  | cons v vs ih => simp [times, ih, List.getLast?_cons]

/-- The instants of the visits never decrease, and none is before the instant it starts from. -/
theorem times_sorted (prev : Duration) (vs : List (Visit σ)) :
    (∀ t ∈ times prev vs, prev ≤ t) ∧ (times prev vs).Pairwise (· ≤ ·) := by
  induction vs generalizing prev with
  | nil => simp [times]
  | cons v vs ih =>
      obtain ⟨hge, hsorted⟩ := ih (max v.clock prev)
      refine ⟨?_, List.pairwise_cons.mpr ⟨hge, hsorted⟩⟩
      intro t ht
      rcases List.mem_cons.mp ht with rfl | ht
      · exact le_max_right _ _
      · exact (le_max_right _ _).trans (hge t ht)

theorem lifetime_nil (v : Visit σ) :
    lifetime v [] = ⟨v.step (v.init v.clock) v.clock, v.clock, max v.clock (v.clock.addSat v.hold)⟩ := by
  simp [lifetime, times]

/-- One more visit steps the state at the later of its clock reading and the last touch,
touches the slot then and extends its hold. -/
theorem lifetime_append_singleton (v : Visit σ) (vs : List (Visit σ)) (w : Visit σ) :
    lifetime v (vs ++ [w]) =
      let x := lifetime v vs
      let now := max w.clock x.touched
      ⟨w.step x.state now, now, max x.expires (now.addSat w.hold)⟩ := by
  have hlen : (v :: vs).length = (times v.clock (v :: vs)).length := (length_times _ _).symm
  simp only [lifetime]
  rw [← List.cons_append, times_append_singleton, List.zip_append hlen]
  simp [List.foldl_append]

end Visit

/-! ## One operation -/

@[simp] theorem runOps_nil (s : KeyStore σ) : runOps s [] = s := rfl

theorem runOps_append_singleton (s : KeyStore σ) (ops : List (Op σ)) (op : Op σ) :
    runOps s (ops ++ [op]) = (runOps s ops).apply op := by
  simp [runOps, List.foldl_append]

theorem Unique.apply {s : KeyStore σ} {k : String} (h : Unique k s) (op : Op σ) : Unique k (s.apply op) := by
  cases op with
  | update key clock hold init step => exact h.update key clock hold init step
  | erase key => exact Unique.erase key h
  | evict now ttl => exact h.evictIdle now ttl

/-- A run from the empty store keeps every key at most once. -/
theorem unique_runOps (ops : List (Op σ)) (k : String) : Unique k (runOps empty ops) := by
  induction ops using List.reverseRecOn with
  | nil => exact Unique.of_slot?_eq_none rfl
  | append_singleton ops op ih =>
      rw [runOps_append_singleton]
      exact ih.apply op

theorem visit_none_eq_lifetime {α : Type} (clock hold : Duration) (init : Duration → σ)
    (step : σ → Duration → σ × α) :
    (Slot.visit none clock hold init step).1 =
      Visit.lifetime ⟨clock, hold, init, fun x t => (step x t).1⟩ [] := by
  rw [Visit.lifetime_nil]
  simp [Slot.visit, Slot.touch]

theorem visit_lifetime {α : Type} (v : Visit σ) (vs : List (Visit σ)) (clock hold : Duration)
    (init : Duration → σ) (step : σ → Duration → σ × α) :
    (Slot.visit (some (Visit.lifetime v vs)) clock hold init step).1 =
      Visit.lifetime v (vs ++ [⟨clock, hold, init, fun x t => (step x t).1⟩]) := by
  rw [Visit.lifetime_append_singleton]
  rfl

/-! ## Lifetimes -/

/-- `life` is a lifetime of `key` after the run `pre` from the empty store: the key is absent
after `pre` and present after every nonempty part of `life`. -/
def Lives (key : String) (pre life : List (Op σ)) : Prop :=
  (runOps empty pre).slot? key = none ∧
    ∀ n, 0 < n → n ≤ life.length → ((runOps empty (pre ++ life.take n)).slot? key).isSome

/-- A lifetime goes on through an operation that leaves the key present. -/
theorem Lives.append_singleton {key : String} {pre life : List (Op σ)} (h : Lives key pre life)
    (op : Op σ) (hop : ((runOps empty (pre ++ life ++ [op])).slot? key).isSome) :
    Lives key pre (life ++ [op]) := by
  refine ⟨h.1, fun n hn hle => ?_⟩
  rcases Nat.lt_or_ge n (life.length + 1) with hlt | hge
  · rw [List.take_append_of_le_length (by omega)]
    exact h.2 n hn (by omega)
  · have hn : n = (life ++ [op]).length := le_antisymm hle (by simpa using hge)
    rw [hn, List.take_length, ← List.append_assoc]
    exact hop

theorem Lives.start {key : String} {pre : List (Op σ)} (h : (runOps empty pre).slot? key = none)
    (op : Op σ) (hop : ((runOps empty (pre ++ [op])).slot? key).isSome) : Lives key pre [op] := by
  refine ⟨h, fun n hn hle => ?_⟩
  obtain rfl : n = 1 := by simp at hle; omega
  exact hop

/-- Every stored key's slot is what its lifetime leaves: the operations since the key was
last absent hold at least one visit of the key, and the slot is the lifetime of those
visits. -/
theorem slot?_runOps_lifetime (ops : List (Op σ)) {key : String} {x : Slot σ}
    (h : (runOps empty ops).slot? key = some x) :
    ∃ pre life v vs, ops = pre ++ life ∧ Lives key pre life ∧
      life.filterMap (Op.visit? key) = v :: vs ∧ x = Visit.lifetime v vs := by
  induction ops using List.reverseRecOn generalizing x with
  | nil => simp [runOps, empty, slot?] at h
  | append_singleton ops op ih =>
      have hpresent : ((runOps empty (ops ++ [op])).slot? key).isSome := by simp [h]
      rw [runOps_append_singleton] at h
      -- a run that leaves the key's slot as it was extends the lifetime that made it
      have hkeep : op.visit? key = none → (runOps empty ops).slot? key = some x →
          ∃ pre life v vs, ops ++ [op] = pre ++ life ∧ Lives key pre life ∧
            life.filterMap (Op.visit? key) = v :: vs ∧ x = Visit.lifetime v vs := by
        intro hvisit hx
        obtain ⟨pre, life, v, vs, rfl, hlives, hvisits, rfl⟩ := ih hx
        refine ⟨pre, life ++ [op], v, vs, by simp, hlives.append_singleton op hpresent, ?_, rfl⟩
        simp [List.filterMap_append, hvisits, hvisit]
      have hu := unique_runOps ops key
      cases op with
      | update k clock hold init step =>
          rw [apply, slot?_update] at h
          by_cases hk : k = key
          · subst hk
            simp only [if_true, Option.some.injEq] at h
            subst h
            have hvisit : (Op.update k clock hold init step).visit? k =
                some ⟨clock, hold, init, fun x t => (step x t).1⟩ := by simp [Op.visit?]
            cases hs : (runOps empty ops).slot? k with
            | none =>
                exact ⟨ops, [.update k clock hold init step], ⟨clock, hold, init, fun x t => (step x t).1⟩,
                  [], rfl, Lives.start hs _ hpresent, by simp [hvisit],
                  visit_none_eq_lifetime clock hold init step⟩
            | some y =>
                obtain ⟨pre, life, v, vs, rfl, hlives, hvisits, rfl⟩ := ih hs
                refine ⟨pre, life ++ [.update k clock hold init step], v,
                  vs ++ [⟨clock, hold, init, fun x t => (step x t).1⟩], by simp,
                  hlives.append_singleton _ hpresent, ?_, ?_⟩
                · simp [List.filterMap_append, hvisits, hvisit]
                · exact visit_lifetime v vs clock hold init step
          · simp only [hk, if_false] at h
            exact hkeep (by simp [Op.visit?, hk]) h
      | erase k =>
          rw [apply, slot?_erase k hu] at h
          by_cases hk : k = key
          · simp [hk] at h
          · simp only [hk, if_false] at h
            exact hkeep rfl h
      | evict now ttl =>
          rw [apply, slot?_evictIdle now ttl hu] at h
          obtain ⟨hx, -⟩ := Option.filter_eq_some_iff.mp h
          exact hkeep rfl hx

/-! ## Eviction -/

/-- An eviction counts the slots it drops. -/
theorem evictIdle_snd (s : KeyStore σ) (now ttl : Duration) :
    (s.evictIdle now ttl).2 = (s.slots.filter fun e => e.2.evictable now ttl).length := by
  have h := List.length_eq_length_filter_add (l := s.slots) fun e => e.2.evictable now ttl
  simp only [evictIdle]
  omega

/-- The bookkeeping of a store driven from empty by any run of updates (at any clock readings,
even decreasing ones, and with any holds), forgets and evictions: each key is held once; a
stored key's slot is the lifetime of its visits since it was last absent, so its state was
made once by the first of them, its steps ran at non-decreasing instants, each the later of
its clock reading and the instant before, it was touched at the last and is held until the
latest instant plus hold, not before its creation; and an eviction drops exactly the slots
idle for the whole TTL and past their hold, returns their number, and keeps every other slot
as it was. -/
theorem runOps_bookkeeping (ops : List (Op σ)) :
    let s := runOps empty ops
    (s.slots.map (·.1)).Nodup ∧
      (∀ key x, s.slot? key = some x → ∃ pre life v vs, ops = pre ++ life ∧ Lives key pre life ∧
        life.filterMap (Op.visit? key) = v :: vs ∧ x = Visit.lifetime v vs ∧
        (Visit.times v.clock (v :: vs)).Pairwise (· ≤ ·)) ∧
      ∀ now ttl,
        (∀ key, (s.evictIdle now ttl).1.slot? key =
          (s.slot? key).filter fun x => !decide (ttl ≤ now.subSat x.touched ∧ x.expires ≤ now)) ∧
        (s.evictIdle now ttl).2 =
          (s.slots.filter fun e => decide (ttl ≤ now.subSat e.2.touched ∧ e.2.expires ≤ now)).length := by
  dsimp only
  have hu := unique_runOps ops
  refine ⟨List.nodup_iff_count_le_one.mpr hu, fun key x hx => ?_, fun now ttl => ⟨fun key => ?_, ?_⟩⟩
  · obtain ⟨pre, life, v, vs, hops, hlives, hvisits, hlife⟩ := slot?_runOps_lifetime ops hx
    exact ⟨pre, life, v, vs, hops, hlives, hvisits, hlife, (Visit.times_sorted v.clock (v :: vs)).2⟩
  · rw [slot?_evictIdle now ttl (hu key)]
    simp only [Slot.evictable_eq]
  · rw [evictIdle_snd]
    simp only [Slot.evictable_eq]

end KeyStore

end Throttle
