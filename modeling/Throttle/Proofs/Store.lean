import Mathlib
import Throttle.Store
import Throttle.Proofs.Time

/-! # Key stores, one key at a time

An update changes the slot of its own key only: what it does there is `Slot.visit`, and
every other key keeps its slot. Forgetting a key and evicting idle keys keep the slots of
the keys they spare. The checks of one key are therefore a run of `Slot.visit` over their
clock readings (`Slot.run`), whatever happens to the other keys in between.

A store reached by these operations holds each key at most once (`KeyStore.Unique`), so a
key that an eviction spares keeps exactly the slot it had.
-/

namespace Throttle

variable {σ α : Type}

namespace Slot

/-- What an update does to the slot of its key, given the slot found and the clock: the
slot it leaves and the step's answer. The key's time is the later of the clock and its
last touch; a new key starts from `init` at the clock. -/
def visit (slot? : Option (Slot σ)) (clock hold : Duration) (init : Duration → σ)
    (step : σ → Duration → σ × α) : Slot σ × α :=
  let base := slot?.getD ⟨init clock, clock, clock⟩
  let now := max clock base.touched
  let r := step base.state now
  ({ base.touch now hold with state := r.1 }, r.2)

/-- The answers of a key's own checks: its slot visited at each clock reading in turn. -/
def run (hold : Duration) (init : Duration → σ) (step : σ → Duration → σ × α) :
    Option (Slot σ) → List Duration → List α
  | _, [] => []
  | slot?, t :: ts =>
    let v := visit slot? t hold init step
    v.2 :: run hold init step (some v.1) ts

/-- The slot a key's own checks leave: its slot visited at each clock reading in turn. -/
def final (hold : Duration) (init : Duration → σ) (step : σ → Duration → σ × α) :
    Option (Slot σ) → List Duration → Option (Slot σ)
  | slot?, [] => slot?
  | slot?, t :: ts => final hold init step (some (visit slot? t hold init step).1) ts

/-- Visits at clock readings in order, none before the last touch, leave the slot touched
at the last reading. -/
theorem final_touched {hold : Duration} {init : Duration → σ} {step : σ → Duration → σ × α} :
    ∀ (slot? : Option (Slot σ)) (ts : List Duration) (t : Duration),
      (∀ slot ∈ slot?, ∀ t ∈ ts, slot.touched ≤ t) → ts.Pairwise (· ≤ ·) →
      ts.getLast? = some t → (final hold init step slot? ts).map (·.touched) = some t
  | _, [], _, _, _, hlast => nomatch hlast
  | slot?, t' :: ts, t, htouch, hsorted, hlast => by
      obtain ⟨hts, hsorted'⟩ := List.pairwise_cons.mp hsorted
      have hvisit : (visit slot? t' hold init step).1.touched = t' := by
        cases slot? with
        | none => simp [visit, touch]
        | some slot => simp [visit, touch, htouch slot rfl t' List.mem_cons_self]
      cases ts with
      | nil =>
          simp only [List.getLast?_singleton, Option.some.injEq] at hlast
          subst hlast
          simp [final, hvisit]
      | cons t'' ts =>
          rw [final]
          refine final_touched _ _ t (fun slot hslot u hu => ?_) hsorted' ?_
          · rw [Option.mem_def, Option.some.injEq] at hslot
            rw [← hslot, hvisit]
            exact hts u hu
          · simpa [List.getLast?_cons_cons] using hlast

@[simp] theorem touch_state (s : Slot σ) (now hold : Duration) : (s.touch now hold).state = s.state :=
  rfl

@[simp] theorem touch_touched (s : Slot σ) (now hold : Duration) :
    (s.touch now hold).touched = now := rfl

@[simp] theorem touch_expires (s : Slot σ) (now hold : Duration) :
    (s.touch now hold).expires = max s.expires (now.addSat hold) := rfl

/-- A visit at a clock not before the last touch runs the step at the clock itself. -/
theorem visit_of_le {slot? : Option (Slot σ)} {clock : Duration} (hold : Duration)
    (init : Duration → σ) (step : σ → Duration → σ × α)
    (h : ∀ slot ∈ slot?, slot.touched ≤ clock) :
    visit slot? clock hold init step =
      let base := slot?.getD ⟨init clock, clock, clock⟩
      ({ base.touch clock hold with state := (step base.state clock).1 },
        (step base.state clock).2) := by
  cases slot? with
  | none => simp [visit]
  | some slot => simp [visit, h slot rfl]

end Slot

namespace KeyStore

/-- Each key has at most one slot in the store. -/
def Unique (key : String) (s : KeyStore σ) : Prop := (s.slots.map (·.1)).count key ≤ 1

@[simp] theorem slot?_mk (slots : List (String × Slot σ)) (key : String) :
    (⟨slots⟩ : KeyStore σ).slot? key = slots.lookup key := rfl

theorem lookup_cons_of_ne {k k' : String} (x : Slot σ) (rest : List (String × Slot σ))
    (h : k ≠ k') : ((k', x) :: rest).lookup k = rest.lookup k := by
  have hb : (k == k') = false := by simpa using h
  simp [List.lookup, hb]

theorem lookup_setSlot (key k : String) (slot : Slot σ) (slots : List (String × Slot σ)) :
    (setSlot key slot slots).lookup k = if key = k then some slot else slots.lookup k := by
  induction slots with
  | nil =>
      by_cases h : key = k
      · subst h
        simp [setSlot]
      · simp [setSlot, h, lookup_cons_of_ne _ _ (Ne.symm h)]
  | cons entry rest ih =>
      obtain ⟨k', x⟩ := entry
      by_cases hk : k' = key
      · subst hk
        by_cases h : k' = k
        · subst h
          simp [setSlot]
        · simp [setSlot, h, lookup_cons_of_ne _ _ (Ne.symm h)]
      · by_cases h : k = k'
        · subst h
          simp [setSlot, hk, Ne.symm hk]
        · simp [setSlot, hk, lookup_cons_of_ne _ _ h, ih]

theorem map_fst_setSlot (key : String) (slot : Slot σ) (slots : List (String × Slot σ)) :
    (setSlot key slot slots).map (·.1) =
      if key ∈ slots.map (·.1) then slots.map (·.1) else slots.map (·.1) ++ [key] := by
  induction slots with
  | nil => simp [setSlot]
  | cons entry rest ih =>
      obtain ⟨k', x⟩ := entry
      by_cases hk : k' = key
      · subst hk
        simp [setSlot]
      · simp only [setSlot, hk, if_false, List.map_cons, ih, List.mem_cons, Ne.symm hk, false_or]
        split <;> simp

theorem count_setSlot_le (key k : String) (slot : Slot σ) (slots : List (String × Slot σ))
    (h : (slots.map (·.1)).count k ≤ 1) : ((setSlot key slot slots).map (·.1)).count k ≤ 1 := by
  rw [map_fst_setSlot]
  split
  · exact h
  · rename_i hmem
    by_cases hk : key = k
    · subst hk
      simp [List.count_eq_zero.mpr hmem]
    · simpa [List.count_append, hk] using h

/-- Filtering the slots of a store that holds `k` at most once keeps or drops `k`'s slot,
as the filter says. -/
theorem lookup_filter {k : String} (p : String × Slot σ → Bool) :
    ∀ slots : List (String × Slot σ), (slots.map (·.1)).count k ≤ 1 →
      (slots.filter p).lookup k = (slots.lookup k).filter (fun slot => p (k, slot))
  | [], _ => rfl
  | (k', x) :: rest, h => by
      by_cases hk : k = k'
      · subst hk
        have hnot : k ∉ rest.map (·.1) := by
          simp only [List.map_cons, List.count_cons_self] at h
          exact List.count_eq_zero.mp (by omega)
        have hnone : (rest.filter p).lookup k = none := by
          refine List.lookup_eq_none_iff.mpr fun q hq => ?_
          have hq' : k ≠ q.1 := fun he =>
            hnot (List.mem_map.mpr ⟨q, (List.mem_filter.mp hq).1, he.symm⟩)
          simpa using hq'
        by_cases hp : p (k, x) <;> simp [hp, hnone, Option.filter]
      · have hrest : (rest.map (·.1)).count k ≤ 1 := by
          simpa [List.count_cons, Ne.symm hk] using h
        have ih := lookup_filter p rest hrest
        by_cases hp : p (k', x) <;> simp [hp, lookup_cons_of_ne _ _ hk, ih]

theorem count_filter_le {k : String} (p : String × Slot σ → Bool) (slots : List (String × Slot σ))
    (h : (slots.map (·.1)).count k ≤ 1) : ((slots.filter p).map (·.1)).count k ≤ 1 :=
  le_trans ((List.filter_sublist.map _).count_le k) h

variable (s : KeyStore σ) (key k : String) (clock hold : Duration) (init : Duration → σ)
  (step : σ → Duration → σ × α)

theorem update_eq :
    s.update key clock hold init step =
      (⟨setSlot key (Slot.visit (s.slot? key) clock hold init step).1 s.slots⟩,
        (Slot.visit (s.slot? key) clock hold init step).2) := by
  unfold update Slot.visit
  cases s.slot? key <;> simp

/-- After an update, the key has the slot its visit leaves, and every other key keeps its
own. -/
theorem slot?_update :
    (s.update key clock hold init step).1.slot? k =
      if key = k then some (Slot.visit (s.slot? key) clock hold init step).1 else s.slot? k := by
  rw [update_eq]
  exact lookup_setSlot ..

theorem update_snd :
    (s.update key clock hold init step).2 = (Slot.visit (s.slot? key) clock hold init step).2 := by
  rw [update_eq]

theorem Unique.update {s : KeyStore σ} {k : String} (h : Unique k s) :
    Unique k (s.update key clock hold init step).1 := by
  rw [update_eq]
  exact count_setSlot_le _ _ _ _ h

variable {s k}

theorem slot?_erase (h : Unique k s) : (s.erase key).slot? k = if key = k then none else s.slot? k := by
  change (s.slots.filter _).lookup k = _
  rw [lookup_filter _ _ h]
  change (s.slot? k).filter _ = _
  by_cases hk : key = k
  · subst hk
    cases s.slot? key <;> simp [Option.filter]
  · cases s.slot? k <;> simp [Option.filter, Ne.symm hk, hk]

theorem Unique.erase (h : Unique k s) : Unique k (s.erase key) := count_filter_le _ _ h

/-- An eviction drops a key's slot exactly when the slot is evictable. -/
theorem slot?_evictIdle (now ttl : Duration) (h : Unique k s) :
    (s.evictIdle now ttl).1.slot? k = (s.slot? k).filter (fun slot => !slot.evictable now ttl) :=
  lookup_filter _ _ h

theorem Unique.evictIdle (now ttl : Duration) (h : Unique k s) :
    Unique k (s.evictIdle now ttl).1 := count_filter_le _ _ h

theorem Unique.of_slot?_eq_none (h : s.slot? k = none) : Unique k s := by
  have hnot : k ∉ s.slots.map (·.1) := by
    intro hmem
    obtain ⟨q, hq, hqk⟩ := List.mem_map.mp hmem
    have hne := List.lookup_eq_none_iff.mp h q hq
    simp [hqk] at hne
  simp [Unique, List.count_eq_zero.mpr hnot]

end KeyStore

end Throttle
