import Mathlib
import Throttle.Proofs.FixedWindow
import Throttle.Proofs.TokenBucket

/-! # Idle eviction, seen from one key

An eviction drops a key whose slot has been idle for the TTL and whose hold has passed. It
is invisible to the key's later checks when the dropped slot is *dead*: every later visit
treats it as a key never seen (`Slot.Dead`). Each discipline makes its evictable slots dead
as long as its hold reaches past their history without saturating the clock
(`Keyed.Reaps`): a log or a counter holds its key for one window, and a bucket for the time
its capacity over its rate takes, which is enough when that time, read back in seconds,
refills the whole capacity (`TokenBucket.Refills`). Rounding the hold to nanoseconds can
make it fall short, and a hold that saturates at the largest instant ends too early.

Across a whole limiter, composites included, a key sees only its own slots
(`Limiter.keyView`). The run with evictions and the run without them keep views that agree
but for slots the first run dropped and the second still holds dead (`KeyView.Shadow`);
checks of the key answer alike on such views. So the key's checks answer exactly as in the
run with every `evictIdle` command removed (`evictIdle_transparent`).
-/

namespace Throttle

variable {σ α : Type}

namespace KeyStore

/-- The slots a store holds under `key`, in order. The store's operations keep at most one. -/
def entries (key : String) (s : KeyStore σ) : List (Slot σ) :=
  (s.slots.filter fun e => e.1 = key).map (·.2)

theorem slot?_eq_head?_entries (key : String) (s : KeyStore σ) :
    s.slot? key = (s.entries key).head? := by
  obtain ⟨slots⟩ := s
  induction slots with
  | nil => rfl
  | cons e rest ih =>
      obtain ⟨k, x⟩ := e
      by_cases h : k = key
      · subst h
        simp [entries, List.lookup]
      · simpa [entries, lookup_cons_of_ne _ _ (Ne.symm h), h] using ih

theorem entries_setSlot_self (key : String) (x : Slot σ) (slots : List (String × Slot σ)) :
    entries key ⟨setSlot key x slots⟩ = x :: (entries key ⟨slots⟩).tail := by
  induction slots with
  | nil => simp [entries, setSlot]
  | cons e rest ih =>
      obtain ⟨k, y⟩ := e
      by_cases h : k = key
      · subst h
        simp [entries, setSlot]
      · simpa [entries, setSlot, h] using ih

theorem entries_setSlot_of_ne {k key : String} (h : k ≠ key) (x : Slot σ)
    (slots : List (String × Slot σ)) : entries key ⟨setSlot k x slots⟩ = entries key ⟨slots⟩ := by
  induction slots with
  | nil => simp [entries, setSlot, h]
  | cons e rest ih =>
      obtain ⟨k', y⟩ := e
      by_cases hk : k' = k
      · subst hk
        simp [entries, setSlot, h]
      · simp only [entries] at ih ⊢
        simp only [setSlot, hk, if_false, List.filter_cons]
        split <;> simp [ih]

theorem entries_erase (s : KeyStore σ) (k key : String) :
    (s.erase k).entries key = if k = key then [] else s.entries key := by
  unfold erase entries
  split
  · subst k
    simp [List.filter_filter]
  · rw [List.filter_filter]
    congr 2
    funext e
    by_cases he : e.1 = key <;> simp [he, Ne.symm ‹¬k = key›]

theorem entries_evictIdle (s : KeyStore σ) (key : String) (now ttl : Duration) :
    (s.evictIdle now ttl).1.entries key = (s.entries key).filter fun x => !x.evictable now ttl := by
  simp only [evictIdle, entries, List.filter_map, List.filter_filter]
  congr 2
  funext e
  exact Bool.and_comm _ _

/-- An update of `key` puts the slot its visit leaves in place of the first slot of the key;
an update of another key leaves the key's slots alone. -/
theorem entries_update (s : KeyStore σ) (k key : String) (clock hold : Duration)
    (init : Duration → σ) (step : σ → Duration → σ × α) :
    (s.update k clock hold init step).1.entries key =
      if k = key then (Slot.visit (s.slot? k) clock hold init step).1 :: (s.entries key).tail
      else s.entries key := by
  rw [update_eq]
  split
  · subst k
    exact entries_setSlot_self ..
  · exact entries_setSlot_of_ne ‹_› ..

end KeyStore

/-! ## Dead slots -/

namespace Duration

theorem le_addSat (t d : Duration) : t ≤ t.addSat d := by
  rw [le_iff_nanos, nanos_addSat]
  simp only [Nat.min_def, limit]
  have := t.nanos_lt
  split <;> omega

theorem addSat_le_addSat {a b : Duration} (d : Duration) (h : a ≤ b) : a.addSat d ≤ b.addSat d := by
  rw [le_iff_nanos, nanos_addSat, nanos_addSat]
  simp only [Nat.min_def]
  rw [le_iff_nanos] at h
  split <;> split <;> omega

end Duration

namespace Slot

variable {hold : Duration} {init : Duration → σ} {step : σ → Duration → σ × α}

/-- A slot that every visit from `now` on treats as a key never seen. -/
def Dead (hold : Duration) (init : Duration → σ) (step : σ → Duration → σ × α) (x : Slot σ)
    (now : Duration) : Prop :=
  ∀ t, now ≤ t → visit (some x) t hold init step = visit none t hold init step

theorem Dead.mono {x : Slot σ} {now now' : Duration} (h : Dead hold init step x now)
    (hle : now ≤ now') : Dead hold init step x now' :=
  fun t ht => h t (hle.trans ht)

/-- The slot's hold ends one `hold` after its last touch. -/
def Held (hold : Duration) (x : Slot σ) : Prop := x.expires = x.touched.addSat hold

theorem visit_touched (slot? : Option (Slot σ)) (t : Duration) :
    (visit slot? t hold init step).1.touched = max t (slot?.getD ⟨init t, t, t⟩).touched := rfl

theorem visit_state (slot? : Option (Slot σ)) (t : Duration) :
    (visit slot? t hold init step).1.state =
      (step (slot?.getD ⟨init t, t, t⟩).state (max t (slot?.getD ⟨init t, t, t⟩).touched)).1 := rfl

/-- Every visit leaves a slot whose hold ends one `hold` after the visit. -/
theorem held_visit {slot? : Option (Slot σ)} (h : ∀ x ∈ slot?, Held hold x) (t : Duration) :
    Held hold (visit slot? t hold init step).1 := by
  cases slot? with
  | none => simpa [visit, Held] using Duration.le_addSat t hold
  | some x =>
      have hx : Held hold x := h x rfl
      have hle : x.expires ≤ (max t x.touched).addSat hold :=
        hx ▸ Duration.addSat_le_addSat hold (le_max_right t x.touched)
      simp [visit, Held, hle]

/-- A slot whose hold ends one `hold` after a touch that does not saturate the clock, and
that may be evicted at `now`, was last touched at least one `hold` before `now`. -/
theorem Held.add_le_of_evictable {x : Slot σ} {now ttl : Duration} (h : Held hold x)
    (hsat : x.touched.nanos + hold.nanos < Duration.limit) (hev : x.evictable now ttl = true) :
    x.touched.nanos + hold.nanos ≤ now.nanos := by
  simp only [evictable, Bool.and_eq_true, decide_eq_true_eq] at hev
  have hexp := Duration.le_iff_nanos.mp hev.2
  rw [h, Duration.nanos_addSat] at hexp
  simp only [Nat.min_def] at hexp
  rw [if_pos (by omega)] at hexp
  exact hexp

/-- A visit at `t` to a slot touched and held no later than `t`, whose step at `t` acts as on
a new state, is the visit of a key never seen. -/
theorem visit_eq_of_step_eq {x : Slot σ} {t : Duration} (hx : x.touched ≤ t)
    (hexp : x.expires ≤ t) (hstep : step x.state t = step (init t) t) :
    visit (some x) t hold init step = visit none t hold init step := by
  have hmax : max x.expires (t.addSat hold) = t.addSat hold :=
    max_eq_right (hexp.trans (Duration.le_addSat t hold))
  simp [visit, touch, max_eq_left hx, hstep, hmax, Duration.le_addSat t hold]

end Slot

namespace Keyed

/-- The discipline's checks under `p` keep the invariant `Inv` on the slots they leave, and
a slot with the invariant that may be evicted at a reading up to `bound` is dead there. -/
structure Reaps (D : Keyed σ) (p : Policy) (bound : Duration) (Inv : Slot σ → Prop) : Prop where
  visit : ∀ (slot? : Option (Slot σ)) (t : Duration), p.validate = .ok () → t ≤ bound →
    (∀ x ∈ slot?, Inv x ∧ x.touched ≤ t) → Inv (Slot.visit slot? t (D.hold p) (D.init p) (D.step p)).1
  dead : ∀ (x : Slot σ) (now ttl : Duration), p.validate = .ok () → now ≤ bound → Inv x →
    x.touched ≤ now → x.evictable now ttl = true → Slot.Dead (D.hold p) (D.init p) (D.step p) x now

end Keyed

/-! ## Windows: a hold of one window covers the history -/

theorem Slot.expires_le_of_evictable {x : Slot σ} {now ttl : Duration}
    (hev : x.evictable now ttl = true) : x.expires ≤ now := by
  simp only [Slot.evictable, Bool.and_eq_true, decide_eq_true_eq] at hev
  exact hev.2

namespace SlidingLog

/-- A log's invariant: its hold ends one window after its last touch, and it holds no
instant after that touch. -/
def Settled (p : Policy) (x : Slot (List Duration)) : Prop :=
  Slot.Held p.window x ∧ ∀ u ∈ x.state, u ≤ x.touched

/-- A check keeps instants of the log or records its own. -/
theorem mem_record {M : Nat} {p : Policy} {log : List Duration} {now u : Duration}
    (h : u ∈ (record M p log now).1) : u ∈ log ∨ u = now := by
  have hprune : ∀ v ∈ prune p.window now log, v ∈ log := by
    intro v hv
    unfold prune at hv
    split at hv
    · exact (List.dropWhile_sublist _).subset hv
    · exact hv
  unfold record at h
  dsimp only at h
  split at h
  · have h' := (List.drop_sublist _ _).subset h
    rcases List.mem_append.mp h' with hv | hv
    · exact .inl (hprune u hv)
    · exact .inr (List.mem_singleton.mp hv)
  · exact .inl (hprune u h)

/-- A check reads the log only through what the pruning keeps. -/
theorem record_eq_of_prune {M : Nat} {p : Policy} {log log' : List Duration} {now : Duration}
    (h : prune p.window now log = prune p.window now log') : record M p log now = record M p log' now := by
  simp only [record, h]

/-- Under a clock that stays one window below its maximum, checks keep logs settled, and a
settled log that may be evicted is dead: a window after its last touch the pruning empties
it. -/
theorem reaps (M : Nat) {p : Policy} {bound : Duration}
    (hb : bound.nanos + p.window.nanos < Duration.limit) : (keyed M).Reaps p bound (Settled p) where
  visit slot? t _ _ h := by
    refine ⟨Slot.held_visit (fun x hx => (h x hx).1.1) t, fun u hu => ?_⟩
    rw [Slot.visit_state] at hu
    rw [Slot.visit_touched]
    rcases mem_record hu with hu | rfl
    · cases slot? with
      | none => simp [keyed] at hu
      | some x => exact ((h x rfl).1.2 u hu).trans (le_max_right _ _)
    · exact le_rfl
  dead x now ttl _ hnow hx htouch hev := by
    intro t ht
    have hsat : x.touched.nanos + p.window.nanos < Duration.limit := by
      have := Duration.le_iff_nanos.mp (htouch.trans hnow)
      omega
    have hgap := hx.1.add_le_of_evictable hsat hev
    have ht' := Duration.le_iff_nanos.mp ht
    refine Slot.visit_eq_of_step_eq (htouch.trans ht) ((Slot.expires_le_of_evictable hev).trans ht) ?_
    show record M p x.state t = record M p [] t
    apply record_eq_of_prune
    have hW : p.window ≤ t := Duration.le_iff_nanos.mpr (by omega)
    simp only [prune, hW, if_true, List.dropWhile_nil]
    refine List.dropWhile_eq_nil_iff.mpr fun u hu => ?_
    have hu' := Duration.le_iff_nanos.mp (hx.2 u hu)
    simp only [decide_eq_true_eq, Duration.le_iff_nanos, Duration.nanos_subSat]
    omega

end SlidingLog

namespace FixedWindow

/-- A counter's invariant: its hold ends one window after its last touch, and its window
starts no later than that touch. -/
def Settled (p : Policy) (x : Slot WindowCount) : Prop :=
  Slot.Held p.window x ∧ x.state.start ≤ x.touched

theorem windowStart_le (now w : Duration) : windowStart now w ≤ now := by
  rw [Duration.le_iff_nanos, nanos_windowStart]
  exact Nat.div_mul_le_self _ _

/-- A check keeps the counter's window or moves it to the window of the check. -/
theorem count_start (p : Policy) (c : WindowCount) (now : Duration) :
    (count p c now).1.start =
      if c.start < windowStart now p.window then windowStart now p.window else c.start := by
  unfold count
  dsimp only
  split <;> split <;> simp_all

/-- A counter from before the current window counts as a new one. -/
theorem count_of_lt_windowStart {p : Policy} {c : WindowCount} {now : Duration}
    (h : c.start < windowStart now p.window) :
    count p c now = count p ⟨windowStart now p.window, 0⟩ now := by
  simp [count, h]

/-- Under a clock that stays one window below its maximum, checks keep counters settled,
and a settled counter that may be evicted is dead: a window after its last touch a check
starts a new window. -/
theorem reaps {p : Policy} {bound : Duration} (hb : bound.nanos + p.window.nanos < Duration.limit) :
    keyed.Reaps p bound (Settled p) where
  visit slot? t _ _ h := by
    refine ⟨Slot.held_visit (fun x hx => (h x hx).1.1) t, ?_⟩
    rw [Slot.visit_state, Slot.visit_touched]
    show (count p _ _).1.start ≤ _
    rw [count_start]
    split
    · exact windowStart_le _ _
    · cases slot? with
      | none => exact (windowStart_le t p.window).trans (le_max_left _ _)
      | some x => exact (h x rfl).1.2.trans (le_max_right _ _)
  dead x now ttl hp hnow hx htouch hev := by
    intro t ht
    have hw : 0 < p.window.nanos := (Policy.validate_eq_ok.mp hp).2
    have hsat : x.touched.nanos + p.window.nanos < Duration.limit := by
      have := Duration.le_iff_nanos.mp (htouch.trans hnow)
      omega
    have hgap := hx.1.add_le_of_evictable hsat hev
    have ht' := Duration.le_iff_nanos.mp ht
    have hstart := Duration.le_iff_nanos.mp hx.2
    refine Slot.visit_eq_of_step_eq (htouch.trans ht) ((Slot.expires_le_of_evictable hev).trans ht) ?_
    show count p x.state t = count p ⟨windowStart t p.window, 0⟩ t
    refine count_of_lt_windowStart (Duration.lt_iff_nanos.mpr ?_)
    rw [nanos_windowStart, alignedStart]
    have := Nat.lt_div_mul_add (a := t.nanos) hw
    omega

end FixedWindow

/-! ## Buckets: a hold of one refill from empty -/

namespace TokenBucket

open Binary64

/-- A bucket's invariant: its hold ends one hold after its last touch, it was refilled no
later than that touch, and it holds no more tokens than the capacity. -/
def Settled (m : Binary64) (p : Policy) (x : Slot Bucket) : Prop :=
  Slot.Held ((keyed m).hold p) x ∧ x.state.lastRefill ≤ x.touched ∧
    Within (capacity ⟨m, .empty⟩ p).toRat x.state

/-- The hold of a bucket lasts a refill from empty: the policy's limit fits 64 bits, the
capacity is finite, the hold read back in seconds times the rate reaches it, and the clock
stays one hold below its maximum up to `bound`. -/
def Refills (m : Binary64) (p : Policy) (bound : Duration) : Prop :=
  p.limit < 2 ^ 64 ∧ bound.nanos + ((keyed m).hold p).nanos < Duration.limit ∧
    ∃ c, (capacity ⟨m, .empty⟩ p).Represents c ∧
      c ≤ ((keyed m).hold p).toSeconds.toRat * p.rate.toRat

variable {p : Policy} {C rate : Binary64} {c r : ℚ} {bucket : Bucket} {now : Duration}

/-- A check reads the bucket only through its refill. -/
theorem take_eq_of_refill_eq {bucket' : Bucket}
    (h : refill C rate bucket now = refill C rate bucket' now) :
    take p C rate bucket now = take p C rate bucket' now := by
  unfold refill at h
  simp only [take, h]

/-- A check leaves a bucket within the capacity. -/
theorem take_within (hC : C.Represents c) (hrate : rate.Represents r) (hb : Within c bucket) :
    Within c (take p C rate bucket now).1 := by
  obtain ⟨ρ, hR, hρc⟩ := refill_within hC hrate hb now
  rw [take_fst]
  split
  · rename_i h1
    obtain ⟨w, hw, hwρ⟩ := sub_le_of_represents hR one_represents
      ((le_iff_of_represents one_represents hR).mp h1)
    exact ⟨w, hw, hwρ.trans hρc⟩
  · exact ⟨ρ, hR, hρc⟩

section Full

variable (hC : C.Represents c) (hCc : C.Canonical) (hrate : rate.Represents r)
include hC hCc hrate

/-- A new bucket refills to exactly the capacity. -/
theorem refill_fresh (now : Duration) : refill C rate ⟨C, now⟩ now = C := by
  obtain ⟨e, he, he0, -⟩ := (now.subSat now).toSeconds_represents
  obtain rfl := he0 (by simp)
  have hP := mul_represents_zero he hrate
  have hS := add_exact hC hP (by simpa using hC.representable)
  rw [add_zero] at hS
  unfold refill
  exact minNum_eq_of_le hC hCc (.inr ⟨c, hS, le_rfl, (add_rounds hC hP).canonical hS⟩)

/-- A bucket whose time since its last refill, times the rate, reaches the capacity refills
to exactly the capacity. -/
theorem refill_of_elapsed {τ e : ℚ} (ht : bucket.tokens.Represents τ)
    (he : (now.subSat bucket.lastRefill).toSeconds.Represents e) (hge : c ≤ e * r) :
    refill C rate bucket now = C := by
  unfold refill
  refine minNum_eq_of_le hC hCc ?_
  rcases (mul_rounds he hrate).lower hC.representable hge with hinf | ⟨q, hq, hcq⟩
  · -- an infinite refill saturates the sum
    obtain ⟨m, f, -, hx, -⟩ := ht
    rw [hinf, hx]
    exact .inl rfl
  · rcases (add_rounds ht hq).lower hC.representable (by linarith [ht.nonneg]) with
      hinf | ⟨u, hu, hcu⟩
    · exact .inl hinf
    · exact .inr ⟨u, hu, hcu, (add_rounds ht hq).canonical hu⟩

end Full

/-- Under a hold that lasts a refill from empty, checks keep buckets settled, and a settled
bucket that may be evicted is dead: a hold after its last touch it refills to exactly the
capacity, which a new bucket starts with. -/
theorem reaps {m : Binary64} {bound : Duration} (h : Refills m p bound) :
    (keyed m).Reaps p bound (Settled m p) where
  visit slot? t hp _ hslot := by
    obtain ⟨hL, -, c, hC, -⟩ := h
    obtain ⟨r, hr⟩ := Policy.rate_represents hp hL
    refine ⟨Slot.held_visit (fun x hx => (hslot x hx).1.1) t, ?_, ?_⟩
    · rw [Slot.visit_state, Slot.visit_touched]
      show (take p _ _ _ _).1.lastRefill ≤ _
      rw [take_fst]
    · rw [Slot.visit_state, hC.toRat_eq]
      refine take_within hC hr ?_
      cases slot? with
      | none => exact ⟨c, hC, le_rfl⟩
      | some x => simpa [hC.toRat_eq] using (hslot x rfl).1.2.2
  dead x now ttl hp hnow hx htouch hev := by
    obtain ⟨hL, hb, c, hC, hcov⟩ := h
    obtain ⟨r, hr⟩ := Policy.rate_represents hp hL
    have hCc : (capacity ⟨m, .empty⟩ p).Canonical := Represents.mul_canonical hC
    intro t ht
    have hsat : x.touched.nanos + ((keyed m).hold p).nanos < Duration.limit := by
      have := Duration.le_iff_nanos.mp (htouch.trans hnow)
      omega
    have hgap := hx.1.add_le_of_evictable hsat hev
    have ht' := Duration.le_iff_nanos.mp ht
    have hlast := Duration.le_iff_nanos.mp hx.2.1
    -- a whole hold has passed since the last refill, and the hold covers the capacity
    have helapsed : (keyed m).hold p ≤ t.subSat x.state.lastRefill := by
      rw [Duration.le_iff_nanos, Duration.nanos_subSat]
      omega
    obtain ⟨e, he, -, -⟩ := (t.subSat x.state.lastRefill).toSeconds_represents
    obtain ⟨w, hw, -, -⟩ := ((keyed m).hold p).toSeconds_represents
    have hge : c ≤ e * r := by
      rw [hw.toRat_eq, hr.toRat_eq] at hcov
      calc c ≤ w * r := hcov
        _ ≤ e * r := mul_le_mul_of_nonneg_right (Duration.toSeconds_mono helapsed hw he) hr.nonneg
    obtain ⟨τ, hτ, -⟩ := hx.2.2
    refine Slot.visit_eq_of_step_eq (htouch.trans ht) ((Slot.expires_le_of_evictable hev).trans ht) ?_
    show take p _ p.rate x.state t = take p _ p.rate ⟨_, t⟩ t
    apply take_eq_of_refill_eq
    rw [refill_of_elapsed hC hCc hr hτ he hge, refill_fresh hC hCc hr]

end TokenBucket

/-! ## Two runs of one discipline, seen from one key -/

namespace Keyed

variable (D : Keyed σ) (Inv : Slot σ → Prop) (p : Policy) (bound : Duration)

/-- The key's slots `a` in the run with evictions and `b` in the run without them, at the
clock reading `now`: the discipline reaps under `p` up to `bound`, the second run holds at
most one slot, settled and touched by `now`, and the first holds the same or has dropped a
slot that is dead. -/
def Shadow (now : Duration) (a b : List (Slot σ)) : Prop :=
  D.Reaps p bound Inv ∧ b.length ≤ 1 ∧ (∀ x ∈ b, p.validate = .ok () ∧ Inv x ∧ x.touched ≤ now) ∧
    (a = b ∨ a = [] ∧ ∀ x ∈ b, Slot.Dead (D.hold p) (D.init p) (D.step p) x now)

variable {D Inv p bound} {now : Duration} {a b : List (Slot σ)}

theorem Shadow.mono {now' : Duration} (h : D.Shadow Inv p bound now a b) (hle : now ≤ now') :
    D.Shadow Inv p bound now' a b := by
  obtain ⟨hR, hlen, hb, hab⟩ := h
  refine ⟨hR, hlen, fun x hx => ⟨(hb x hx).1, (hb x hx).2.1, (hb x hx).2.2.trans hle⟩, ?_⟩
  rcases hab with rfl | ⟨rfl, hdead⟩
  · exact .inl rfl
  · exact .inr ⟨rfl, fun x hx => (hdead x hx).mono hle⟩

theorem Shadow.nil (hR : D.Reaps p bound Inv) : D.Shadow Inv p bound now [] [] :=
  ⟨hR, by simp, by simp, .inl rfl⟩

/-- An eviction in the first run only: what it drops was settled, so it is dead. -/
theorem Shadow.evict_left (h : D.Shadow Inv p bound now a b) (hnow : now ≤ bound) (ttl : Duration) :
    D.Shadow Inv p bound now (a.filter fun x => !x.evictable now ttl) b := by
  obtain ⟨hR, hlen, hb, hab⟩ := h
  refine ⟨hR, hlen, hb, ?_⟩
  rcases hab with rfl | ⟨rfl, hdead⟩
  · match a, hlen with
    | [], _ => exact .inl rfl
    | [x], _ =>
        by_cases hev : x.evictable now ttl = true
        · obtain ⟨hp, hx, htouch⟩ := hb x (List.mem_singleton_self x)
          refine .inr ⟨by simp [hev], fun y hy => ?_⟩
          rw [List.mem_singleton.mp hy]
          exact hR.dead x now ttl hp hnow hx htouch hev
        · exact .inl (by simp [hev])
  · exact .inr ⟨rfl, hdead⟩

/-- An eviction in both runs. -/
theorem Shadow.evict_both (h : D.Shadow Inv p bound now a b) (ttl : Duration) :
    D.Shadow Inv p bound now (a.filter fun x => !x.evictable now ttl)
      (b.filter fun x => !x.evictable now ttl) := by
  obtain ⟨hR, hlen, hb, hab⟩ := h
  refine ⟨hR, (List.length_filter_le _ _).trans hlen,
    fun x hx => hb x (List.mem_filter.mp hx).1, ?_⟩
  rcases hab with rfl | ⟨rfl, hdead⟩
  · exact .inl rfl
  · exact .inr ⟨rfl, fun x hx => hdead x (List.mem_filter.mp hx).1⟩

/-- A check of the key at `now` answers alike in both runs, and the runs stay in step. -/
theorem Shadow.check {st₁ st₂ : KeyStore σ} {key : String}
    (h : D.Shadow Inv p bound now (st₁.entries key) (st₂.entries key)) (hnow : now ≤ bound) :
    ((D.rebuild st₁).check now key p).2 = ((D.rebuild st₂).check now key p).2 ∧
      ∃ st₁' st₂', ((D.rebuild st₁).check now key p).1 = D.rebuild st₁' ∧
        ((D.rebuild st₂).check now key p).1 = D.rebuild st₂' ∧
        D.Shadow Inv p bound now (st₁'.entries key) (st₂'.entries key) := by
  cases hp : p.validate with
  | error e =>
      rw [D.check_error _ _ _ _ _ hp, D.check_error _ _ _ _ _ hp]
      exact ⟨rfl, st₁, st₂, rfl, rfl, h⟩
  | ok u =>
      cases u
      obtain ⟨hR, hlen, hb, hab⟩ := h
      -- both runs visit the same slot, or a dropped slot against a dead one
      have hvisit : Slot.visit (st₁.slot? key) now (D.hold p) (D.init p) (D.step p) =
          Slot.visit (st₂.slot? key) now (D.hold p) (D.init p) (D.step p) := by
        rw [KeyStore.slot?_eq_head?_entries, KeyStore.slot?_eq_head?_entries]
        rcases hab with hab | ⟨ha, hdead⟩
        · rw [hab]
        · rw [ha]
          cases hb' : st₂.entries key with
          | nil => rfl
          | cons x _ => exact (hdead x (by simp [hb'])  now le_rfl).symm
      rw [D.check_ok _ _ _ _ hp, D.check_ok _ _ _ _ hp]
      refine ⟨by rw [KeyStore.update_snd, KeyStore.update_snd, hvisit], _, _, rfl, rfl, ?_⟩
      have htail : (st₂.entries key).tail = [] := List.eq_nil_of_length_eq_zero (by simp; omega)
      have hhead : ∀ x ∈ st₂.slot? key, Inv x ∧ x.touched ≤ now := fun x hx => by
        rw [KeyStore.slot?_eq_head?_entries] at hx
        exact (hb x (List.mem_of_mem_head? hx)).2
      have hsettled := hR.visit (st₂.slot? key) now hp hnow hhead
      have htouched : (Slot.visit (st₂.slot? key) now (D.hold p) (D.init p) (D.step p)).1.touched = now := by
        rw [Slot.visit_touched]
        refine max_eq_left ?_
        cases hs : st₂.slot? key with
        | none => exact le_rfl
        | some x => exact (hhead x hs).2
      rw [KeyStore.entries_update, KeyStore.entries_update, if_pos rfl, if_pos rfl, hvisit, htail]
      have ha_tail : (st₁.entries key).tail = [] := by
        rcases hab with hab | ⟨ha, -⟩
        · rw [hab, htail]
        · rw [ha]; rfl
      rw [ha_tail]
      refine ⟨hR, by simp, fun x hx => ?_, .inl rfl⟩
      rw [List.mem_singleton.mp hx]
      exact ⟨hp, hsettled, htouched.le⟩

end Keyed

/-! ## What a limiter holds for one key -/

mutual

/-- What a limiter holds for one key: the key's slots in each discipline, with the setting
its checks read besides the policy, and a composite's members with their names and
policies. -/
inductive KeyView where
  | bucket (multiplier : Binary64) (slots : List (Slot Bucket))
  | log (maxEntries : Nat) (slots : List (Slot (List Duration)))
  | window (slots : List (Slot WindowCount))
  | composite (members : List MemberView)

/-- A member of a composite as one key sees it. -/
inductive MemberView where
  | mk (name : String) (policy : Option Policy) (view : KeyView)

end

namespace Limiter

mutual

/-- What the limiter holds for `key`. -/
def keyView (key : String) : Limiter → KeyView
  | tokenBucket l => .bucket l.multiplier (l.buckets.entries key)
  | slidingLog l => .log l.maxEntries (l.logs.entries key)
  | fixedWindow l => .window (l.counters.entries key)
  | composite ms => .composite (membersView key ms)

/-- What the members hold for `key`. -/
def membersView (key : String) : List Member → List MemberView
  | [] => []
  | Member.mk n q l :: ms => .mk n q (keyView key l) :: membersView key ms

end

end Limiter

namespace KeyView

mutual

/-- The view with the slots of every discipline passed through `f`. -/
def mapSlots (f : ∀ {σ : Type}, List (Slot σ) → List (Slot σ)) : KeyView → KeyView
  | bucket m xs => bucket m (f xs)
  | log n xs => log n (f xs)
  | window xs => window (f xs)
  | composite ms => composite (mapMembers f ms)

/-- The members' views with the slots of every discipline passed through `f`. -/
def mapMembers (f : ∀ {σ : Type}, List (Slot σ) → List (Slot σ)) : List MemberView → List MemberView
  | [] => []
  | .mk n q v :: ms => .mk n q (mapSlots f v) :: mapMembers f ms

end

/-- The view after an eviction at `now` for the idle TTL `ttl`. -/
def evict (now ttl : Duration) : KeyView → KeyView :=
  mapSlots fun xs => xs.filter fun x => !x.evictable now ttl

/-- The view after the key is forgotten. -/
def clear : KeyView → KeyView := mapSlots fun _ => []

end KeyView

namespace Limiter

variable (key : String)

mutual

theorem keyView_evictIdle (now ttl : Duration) :
    ∀ l : Limiter, ((l.evictIdle now ttl).1).keyView key = (l.keyView key).evict now ttl
  | tokenBucket l => by
      simp [evictIdle, keyView, KeyView.evict, KeyView.mapSlots, KeyStore.entries_evictIdle]
  | slidingLog l => by
      simp [evictIdle, keyView, KeyView.evict, KeyView.mapSlots, KeyStore.entries_evictIdle]
  | fixedWindow l => by
      simp [evictIdle, keyView, KeyView.evict, KeyView.mapSlots, KeyStore.entries_evictIdle]
  | composite ms => by
      simp [evictIdle, keyView, KeyView.evict, KeyView.mapSlots, membersView_evictMembers now ttl ms]

theorem membersView_evictMembers (now ttl : Duration) :
    ∀ ms : List Member, membersView key (evictMembers now ttl ms).1 =
      KeyView.mapMembers (fun xs => xs.filter fun x => !x.evictable now ttl) (membersView key ms)
  | [] => rfl
  | Member.mk n q l :: ms => by
      have hl := keyView_evictIdle now ttl l
      simp only [KeyView.evict] at hl
      simp [evictMembers, membersView, KeyView.mapMembers, hl, membersView_evictMembers now ttl ms]

end

mutual

theorem keyView_reset_self : ∀ l : Limiter, (l.reset key).keyView key = (l.keyView key).clear
  | tokenBucket l => by
      simp [reset, keyView, KeyView.clear, KeyView.mapSlots, KeyStore.entries_erase]
  | slidingLog l => by
      simp [reset, keyView, KeyView.clear, KeyView.mapSlots, KeyStore.entries_erase]
  | fixedWindow l => by
      simp [reset, keyView, KeyView.clear, KeyView.mapSlots, KeyStore.entries_erase]
  | composite ms => by
      simp [reset, keyView, KeyView.clear, KeyView.mapSlots, membersView_resetMembers_self ms]

theorem membersView_resetMembers_self :
    ∀ ms : List Member, membersView key (resetMembers key ms) =
      KeyView.mapMembers (fun _ => []) (membersView key ms)
  | [] => rfl
  | Member.mk n q l :: ms => by
      have hl := keyView_reset_self l
      simp only [KeyView.clear] at hl
      simp [resetMembers, membersView, KeyView.mapMembers, hl, membersView_resetMembers_self ms]

end

variable {key} {k : String}

mutual

theorem keyView_reset_of_ne (h : k ≠ key) : ∀ l : Limiter, (l.reset k).keyView key = l.keyView key
  | tokenBucket l => by simp [reset, keyView, KeyStore.entries_erase, h]
  | slidingLog l => by simp [reset, keyView, KeyStore.entries_erase, h]
  | fixedWindow l => by simp [reset, keyView, KeyStore.entries_erase, h]
  | composite ms => by simp [reset, keyView, membersView_resetMembers_of_ne h ms]

theorem membersView_resetMembers_of_ne (h : k ≠ key) :
    ∀ ms : List Member, membersView key (resetMembers k ms) = membersView key ms
  | [] => rfl
  | Member.mk n q l :: ms => by
      simp [resetMembers, membersView, keyView_reset_of_ne h l, membersView_resetMembers_of_ne h ms]

end

end Limiter

namespace Keyed

variable (D : Keyed σ) {key k : String}

/-- A check of another key leaves the key's slots alone. -/
theorem entries_check_of_ne (h : k ≠ key) (st : KeyStore σ) (now : Duration) (q : Policy) :
    ∃ st', ((D.rebuild st).check now k q).1 = D.rebuild st' ∧ st'.entries key = st.entries key := by
  cases hq : q.validate with
  | ok u =>
      cases u
      refine ⟨_, by rw [D.check_ok _ _ _ _ hq], ?_⟩
      rw [KeyStore.entries_update, if_neg h]
  | error e => exact ⟨st, by rw [D.check_error _ _ _ _ _ hq], rfl⟩

end Keyed

namespace Limiter

variable {key k : String}

/-- A composite check of another key leaves the key's view alone when checking the members
does. -/
theorem keyView_evaluate {now : Duration} {resolve : Member → Except Error Policy}
    {ms : List Member} (hm : ∀ ps acc, membersView key (checkMembers now k ms ps acc).1 = membersView key ms) :
    ((evaluate now k resolve ms).1).keyView key = (composite ms).keyView key := by
  rw [evaluate]
  split
  · rfl
  · split
    · rfl
    · simp [keyView, hm]

mutual

theorem keyView_check_of_ne (h : k ≠ key) (now : Duration) (q : Policy) :
    ∀ l : Limiter, ((l.check now k q).1).keyView key = l.keyView key
  | tokenBucket l => by
      obtain ⟨st', heq, hent⟩ :=
        (TokenBucket.keyed l.multiplier).entries_check_of_ne h l.buckets now q
      exact (congrArg (keyView key) heq).trans (congrArg (KeyView.bucket l.multiplier) hent)
  | slidingLog l => by
      obtain ⟨st', heq, hent⟩ := (SlidingLog.keyed l.maxEntries).entries_check_of_ne h l.logs now q
      exact (congrArg (keyView key) heq).trans (congrArg (KeyView.log l.maxEntries) hent)
  | fixedWindow l => by
      obtain ⟨st', heq, hent⟩ := FixedWindow.keyed.entries_check_of_ne h l.counters now q
      exact (congrArg (keyView key) heq).trans (congrArg KeyView.window hent)
  | composite ms => by
      rw [check]
      exact keyView_evaluate (fun ps acc => membersView_checkMembers_of_ne h now ms ps acc)

theorem membersView_checkMembers_of_ne (h : k ≠ key) (now : Duration) :
    ∀ (ms : List Member) (ps : List Policy) (acc : List (String × Decision)),
      membersView key (checkMembers now k ms ps acc).1 = membersView key ms
  | [], _, _ => by simp [checkMembers]
  | _ :: _, [], _ => by simp [checkMembers]
  | Member.mk n q l :: ms, p :: ps, acc => by
      have hl := keyView_check_of_ne h now p l
      rw [checkMembers]
      split
      · rename_i l' d hc
        rw [hc] at hl
        simp [membersView, hl, membersView_checkMembers_of_ne h now ms ps]
      · rename_i l' e hc
        rw [hc] at hl
        simp [membersView, hl]

end

end Limiter

/-! ## Two runs of a limiter, seen from one key -/

namespace KeyView

mutual

/-- The views of one key in the run with evictions (first) and the run without them
(second), at the clock reading `now`, when the key is checked under `p`: the same
disciplines and members, each discipline in step under the policy it is checked with. -/
def Shadow (bound now : Duration) : Policy → KeyView → KeyView → Prop
  | p, bucket m a, bucket m' b =>
      m = m' ∧ (TokenBucket.keyed m).Shadow (TokenBucket.Settled m p) p bound now a b
  | p, log n a, log n' b =>
      n = n' ∧ (SlidingLog.keyed n).Shadow (SlidingLog.Settled p) p bound now a b
  | p, window a, window b => FixedWindow.keyed.Shadow (FixedWindow.Settled p) p bound now a b
  | p, composite ms, composite ms' => MembersShadow bound now p ms ms'
  | _, _, _ => False

/-- Members in step: the same names and policies, each member's views in step under the
policy the member is checked with. -/
def MembersShadow (bound now : Duration) : Policy → List MemberView → List MemberView → Prop
  | _, [], [] => True
  | p, .mk n q v :: ms, .mk n' q' v' :: ms' =>
      n = n' ∧ q = q' ∧ Shadow bound now (q.getD p) v v' ∧ MembersShadow bound now p ms ms'
  | _, _, _ => False

end

variable {bound now now' : Duration} {f g : ∀ {σ : Type}, List (Slot σ) → List (Slot σ)}

mutual

/-- Views stay in step under leafwise changes that keep every discipline in step. -/
theorem Shadow.map
    (hfg : ∀ {σ : Type} (D : Keyed σ) (Inv : Slot σ → Prop) (q : Policy) (a b : List (Slot σ)),
      D.Shadow Inv q bound now a b → D.Shadow Inv q bound now' (f a) (g b)) :
    ∀ (p : Policy) (v w : KeyView), Shadow bound now p v w →
      Shadow bound now' p (v.mapSlots f) (w.mapSlots g)
  | p, bucket m a, w, h => by
      cases w with
      | bucket m' b =>
          obtain ⟨hm, hab⟩ := h
          exact ⟨hm, hfg _ _ _ a b hab⟩
      | _ => exact h.elim
  | p, log n a, w, h => by
      cases w with
      | log n' b =>
          obtain ⟨hn, hab⟩ := h
          exact ⟨hn, hfg _ _ _ a b hab⟩
      | _ => exact h.elim
  | p, window a, w, h => by
      cases w with
      | window b => exact hfg _ _ _ a b h
      | _ => exact h.elim
  | p, composite ms, w, h => by
      cases w with
      | composite ms' => exact MembersShadow.map hfg p ms ms' h
      | _ => exact h.elim

theorem MembersShadow.map
    (hfg : ∀ {σ : Type} (D : Keyed σ) (Inv : Slot σ → Prop) (q : Policy) (a b : List (Slot σ)),
      D.Shadow Inv q bound now a b → D.Shadow Inv q bound now' (f a) (g b)) :
    ∀ (p : Policy) (ms ms' : List MemberView), MembersShadow bound now p ms ms' →
      MembersShadow bound now' p (mapMembers f ms) (mapMembers g ms')
  | p, [], ms', h => by
      cases ms' with
      | nil => trivial
      | cons _ _ => exact h.elim
  | p, .mk n q v :: ms, ms', h => by
      cases ms' with
      | nil => exact h.elim
      | cons m' ms' =>
          obtain ⟨n', q', v'⟩ := m'
          obtain ⟨hn, hq, hv, hms⟩ := h
          exact ⟨hn, hq, Shadow.map hfg _ v v' hv, MembersShadow.map hfg p ms ms' hms⟩

end

mutual

@[simp] theorem mapSlots_id : ∀ v : KeyView, v.mapSlots (fun xs => xs) = v
  | bucket _ _ | log _ _ | window _ => rfl
  | composite ms => by simp [mapSlots, mapMembers_id ms]

@[simp] theorem mapMembers_id : ∀ ms : List MemberView, mapMembers (fun xs => xs) ms = ms
  | [] => rfl
  | .mk n q v :: ms => by simp [mapMembers, mapSlots_id v, mapMembers_id ms]

end

variable {p : Policy} {v w : KeyView}

theorem Shadow.mono (h : Shadow bound now p v w) (hle : now ≤ now') : Shadow bound now' p v w := by
  simpa using Shadow.map (f := fun xs => xs) (g := fun xs => xs)
    (fun _ _ _ _ _ hab => hab.mono hle) p v w h

/-- An eviction in the first run only keeps the runs in step. -/
theorem Shadow.evict_left (h : Shadow bound now p v w) (hnow : now ≤ bound) (ttl : Duration) :
    Shadow bound now p (v.evict now ttl) w := by
  simpa [evict] using
    Shadow.map (g := fun xs => xs) (fun _ _ _ _ _ hab => hab.evict_left hnow ttl) p v w h

/-- An eviction in both runs keeps them in step. -/
theorem Shadow.evict_both (h : Shadow bound now p v w) (ttl : Duration) :
    Shadow bound now p (v.evict now ttl) (w.evict now ttl) :=
  Shadow.map (fun _ _ _ _ _ hab => hab.evict_both ttl) p v w h

/-- Forgetting the key in both runs keeps them in step. -/
theorem Shadow.clear (h : Shadow bound now p v w) : Shadow bound now p v.clear w.clear :=
  Shadow.map (fun _ _ _ _ _ hab => Keyed.Shadow.nil hab.1) p v w h

end KeyView

namespace Limiter

/-- A composite checked under `p` resolves each member's policy from its own alone: the
member's policy, or `p` for a member without one, validated. -/
theorem memberPolicies_own_cons (p : Policy) (m : Member) (ms : List Member) :
    memberPolicies (fun m => .ok (m.policy.getD p)) (m :: ms) =
      ((m.policy.getD p).validate >>= fun _ =>
        memberPolicies (fun m => .ok (m.policy.getD p)) ms >>= fun ps => pure (m.policy.getD p :: ps)) := by
  simp only [memberPolicies, List.mapM_cons]
  rcases hv : (m.policy.getD p).validate with e | u
  · simp [hv, bind, Except.bind]
  · simp [hv, bind, Except.bind, pure, Except.pure]

theorem memberPolicies_congr_own (p : Policy) :
    ∀ {ms₁ ms₂ : List Member}, ms₁.map Member.policy = ms₂.map Member.policy →
      memberPolicies (fun m => .ok (m.policy.getD p)) ms₁ =
        memberPolicies (fun m => .ok (m.policy.getD p)) ms₂
  | [], [], _ => rfl
  | m₁ :: ms₁, m₂ :: ms₂, h => by
      simp only [List.map_cons, List.cons.injEq] at h
      rw [memberPolicies_own_cons, memberPolicies_own_cons, h.1, memberPolicies_congr_own p h.2]

/-- Resolved policies are the members' own, or `p` for a member without one. -/
theorem eq_map_of_memberPolicies_own {p : Policy} :
    ∀ {ms : List Member} {ps : List Policy},
      memberPolicies (fun m => .ok (m.policy.getD p)) ms = .ok ps → ps = ms.map (·.policy.getD p)
  | [], ps, h => by
      cases h
      rfl
  | m :: ms, ps, h => by
      rw [memberPolicies_own_cons] at h
      rcases hv : (m.policy.getD p).validate with e | u
      · simp [hv, bind, Except.bind] at h
      · rcases hr : memberPolicies (fun m => .ok (m.policy.getD p)) ms with e | rest
        · simp [hv, hr, bind, Except.bind] at h
        · simp only [hv, hr, bind, Except.bind, pure, Except.pure, Except.ok.injEq] at h
          rw [← h, eq_map_of_memberPolicies_own hr, List.map_cons]

variable {key : String} {bound now : Duration}

theorem policies_eq_of_membersShadow :
    ∀ {p : Policy} {ms₁ ms₂ : List Member},
      KeyView.MembersShadow bound now p (membersView key ms₁) (membersView key ms₂) →
      ms₁.map Member.policy = ms₂.map Member.policy
  | _, [], [], _ => rfl
  | _, [], Member.mk _ _ _ :: _, h => h.elim
  | _, Member.mk _ _ _ :: _, [], h => h.elim
  | _, Member.mk _ _ _ :: _, Member.mk _ _ _ :: _, h => by
      obtain ⟨-, hq, -, hms⟩ := h
      simp [Member.policy, hq, policies_eq_of_membersShadow hms]

/-- Two stores of one discipline in step answer a check of the key alike, and a relation
that every pair of stores in step gives their views holds of the views after the check. -/
theorem Keyed.Shadow.check_view {σ : Type} {D : Keyed σ} {Inv : Slot σ → Prop} {p : Policy}
    {st₁ st₂ : KeyStore σ} {V : KeyView → KeyView → Prop}
    (h : D.Shadow Inv p bound now (st₁.entries key) (st₂.entries key))
    (hview : ∀ st₁ st₂ : KeyStore σ, D.Shadow Inv p bound now (st₁.entries key) (st₂.entries key) →
      V ((D.rebuild st₁).keyView key) ((D.rebuild st₂).keyView key))
    (hnow : now ≤ bound) :
    ((D.rebuild st₁).check now key p).2 = ((D.rebuild st₂).check now key p).2 ∧
      V (((D.rebuild st₁).check now key p).1.keyView key) (((D.rebuild st₂).check now key p).1.keyView key) := by
  obtain ⟨hr, st₁', st₂', h₁, h₂, hst⟩ := h.check hnow
  rw [h₁, h₂]
  exact ⟨hr, hview _ _ hst⟩

mutual

/-- A check of the key answers alike in two runs in step, and keeps them in step. -/
theorem check_shadow (hnow : now ≤ bound) :
    ∀ (p : Policy) (l₁ l₂ : Limiter), KeyView.Shadow bound now p (l₁.keyView key) (l₂.keyView key) →
      (l₁.check now key p).2 = (l₂.check now key p).2 ∧
        KeyView.Shadow bound now p ((l₁.check now key p).1.keyView key)
          ((l₂.check now key p).1.keyView key)
  | p, tokenBucket ⟨m, b₁⟩, l₂, h => by
      cases l₂ with
      | tokenBucket l₂ =>
          obtain ⟨m₂, b₂⟩ := l₂
          obtain ⟨rfl, hab⟩ := h
          exact Keyed.Shadow.check_view (D := TokenBucket.keyed m) (V := KeyView.Shadow bound now p) hab
            (fun _ _ hst => ⟨rfl, hst⟩) hnow
      | _ => exact h.elim
  | p, slidingLog ⟨n, b₁⟩, l₂, h => by
      cases l₂ with
      | slidingLog l₂ =>
          obtain ⟨n₂, b₂⟩ := l₂
          obtain ⟨rfl, hab⟩ := h
          exact Keyed.Shadow.check_view (D := SlidingLog.keyed n) (V := KeyView.Shadow bound now p) hab
            (fun _ _ hst => ⟨rfl, hst⟩) hnow
      | _ => exact h.elim
  | p, fixedWindow ⟨b₁⟩, l₂, h => by
      cases l₂ with
      | fixedWindow l₂ =>
          obtain ⟨b₂⟩ := l₂
          exact Keyed.Shadow.check_view (D := FixedWindow.keyed) (V := KeyView.Shadow bound now p) h
            (fun _ _ hst => hst) hnow
      | _ => exact h.elim
  | p, composite ms₁, l₂, h => by
      cases l₂ with
      | composite ms₂ =>
          have hpol := policies_eq_of_membersShadow h
          have hempty : ms₁.isEmpty = ms₂.isEmpty := by
            have hlen := congrArg List.length hpol
            simp only [List.length_map] at hlen
            cases ms₁ <;> cases ms₂ <;> simp_all
          rw [check, check, evaluate, evaluate, memberPolicies_congr_own p hpol, hempty]
          by_cases he : ms₂.isEmpty = true
          · rw [if_pos he, if_pos he]
            exact ⟨rfl, h⟩
          · rw [if_neg he, if_neg he]
            cases hmp : memberPolicies (fun m => .ok (m.policy.getD p)) ms₂ with
            | error e => exact ⟨rfl, h⟩
            | ok ps =>
                dsimp only
                have hps₂ : ms₂.map (·.policy.getD p) = ps := (eq_map_of_memberPolicies_own hmp).symm
                have hps₁ : ms₁.map (·.policy.getD p) = ps := by
                  rw [← hps₂]
                  simpa [Function.comp_def] using congrArg (List.map (·.getD p)) hpol
                obtain ⟨hr, hs⟩ := checkMembers_shadow hnow p ms₁ ms₂ [] h
                rw [hps₁, hps₂] at hr hs
                rcases hc₁ : checkMembers now key ms₁ ps [] with ⟨ms₁', out₁⟩
                rcases hc₂ : checkMembers now key ms₂ ps [] with ⟨ms₂', out₂⟩
                rw [hc₁, hc₂] at hr hs
                simp only at hr hs
                subst hr
                exact ⟨rfl, hs⟩
      | _ => exact h.elim

theorem checkMembers_shadow (hnow : now ≤ bound) :
    ∀ (p : Policy) (ms₁ ms₂ : List Member) (acc : List (String × Decision)),
      KeyView.MembersShadow bound now p (membersView key ms₁) (membersView key ms₂) →
      (checkMembers now key ms₁ (ms₁.map (·.policy.getD p)) acc).2 =
          (checkMembers now key ms₂ (ms₂.map (·.policy.getD p)) acc).2 ∧
        KeyView.MembersShadow bound now p
          (membersView key (checkMembers now key ms₁ (ms₁.map (·.policy.getD p)) acc).1)
          (membersView key (checkMembers now key ms₂ (ms₂.map (·.policy.getD p)) acc).1)
  | p, [], [], acc, _ => by simp [checkMembers, membersView, KeyView.MembersShadow]
  | _, [], Member.mk _ _ _ :: _, _, h => h.elim
  | _, Member.mk _ _ _ :: _, [], _, h => h.elim
  | p, Member.mk n q l₁ :: ms₁, Member.mk n₂ q₂ l₂ :: ms₂, acc, h => by
      obtain ⟨rfl, rfl, hl, hms⟩ := h
      obtain ⟨hr, hl'⟩ := check_shadow hnow (q.getD p) l₁ l₂ hl
      simp only [List.map_cons, Member.policy]
      rw [checkMembers, checkMembers]
      rcases h₁ : check now key (q.getD p) l₁ with ⟨l₁', r₁⟩
      rcases h₂ : check now key (q.getD p) l₂ with ⟨l₂', r₂⟩
      rw [h₁, h₂] at hr hl'
      simp only at hr hl'
      subst hr
      cases r₁ with
      | ok d =>
          obtain ⟨hrest, hs⟩ := checkMembers_shadow hnow p ms₁ ms₂ ((n, d) :: acc) hms
          exact ⟨hrest, rfl, rfl, hl', hs⟩
      | error e => exact ⟨rfl, rfl, rfl, hl', hms⟩

end

end Limiter

namespace Limiter

variable {key k : String}

theorem keyView_checkWithPolicies_of_ne (h : k ≠ key) {now : Duration} {ps : List (String × Policy)}
    {l l' : Limiter} {r : Except Error Decision} (hc : l.checkWithPolicies now k ps = some (l', r)) :
    l'.keyView key = l.keyView key := by
  cases l with
  | composite ms =>
      simp only [checkWithPolicies, Option.some.injEq] at hc
      rw [← show (evaluate now k _ ms).1 = l' from congrArg Prod.fst hc]
      exact keyView_evaluate (fun ps acc => membersView_checkMembers_of_ne h now ms ps acc)
  | _ => simp [checkWithPolicies] at hc

end Limiter

/-- Whether the command evicts idle keys. -/
def Command.evicts : Command → Bool
  | .evictIdle _ => true
  | _ => false

namespace KeyView

/-- What a step that does not check the key does to the key's view at the reading `now`. -/
def after (key : String) (now : Duration) : Command → KeyView → KeyView
  | .reset k, v => if k = key then v.clear else v
  | .evictIdle ttl, v => v.evict now ttl
  | .sweep interval ttl, v => if interval.nanos = 0 then v else v.evict now ttl
  | _, v => v

/-- Steps that are not evictions, taken in both runs, keep them in step. -/
theorem Shadow.after {bound now : Duration} {p : Policy} {v w : KeyView} (key : String)
    (h : Shadow bound now p v w) {c : Command} (hc : c.evicts = false) :
    Shadow bound now p (v.after key now c) (w.after key now c) := by
  cases c with
  | reset k =>
      simp only [KeyView.after]
      split
      · exact h.clear
      · exact h
  | evictIdle ttl => simp [Command.evicts] at hc
  | sweep interval ttl =>
      simp only [KeyView.after]
      split
      · exact h
      · exact h.evict_both ttl
  | _ => exact h

end KeyView

namespace Session

/-- Only moves of the clock move it. -/
theorem step_clock (s : Session) (c : Command) :
    (s.step c).1.clock = match c with
      | .advance d => (s.clock.advance? d).getD s.clock
      | .advanceTo t => s.clock.advanceTo t
      | _ => s.clock := by
  cases c with
  | check k q =>
      rcases hc : s.limiter.check s.clock.now k q with ⟨l, r⟩
      simp [step, hc]
  | checkWithPolicies k ps =>
      simp only [step]
      split <;> rfl
  | advance d =>
      simp only [step]
      split <;> simp_all
  | sweep interval ttl =>
      simp only [step]
      split
      · rfl
      · rcases s.limiter.evictIdle s.clock.now ttl with ⟨l, n⟩
        rfl
  | evictIdle ttl =>
      rcases he : s.limiter.evictIdle s.clock.now ttl with ⟨l, n⟩
      simp [step, he]
  | _ => rfl

theorem run_cons_fst (s : Session) (c : Command) (cs : List Command) :
    (s.run (c :: cs)).1 = ((s.step c).1.run cs).1 := by
  simp only [run]

theorem now_le_run : ∀ (s : Session) (cs : List Command), s.clock.now ≤ (s.run cs).1.clock.now
  | _, [] => le_rfl
  | s, c :: cs => by
      rw [run_cons_fst]
      exact (now_le_step s c).trans (now_le_run _ cs)

variable {key : String}

/-- A step that does not check the key acts on its view as `KeyView.after` says. -/
theorem keyView_step (s : Session) {c : Command} (hc : c.checks key = false)
    (hcw : ∀ ps, c ≠ .checkWithPolicies key ps) :
    (s.step c).1.limiter.keyView key = (s.limiter.keyView key).after key s.clock.now c := by
  cases c with
  | check k q =>
      have hk : k ≠ key := by simpa [Command.checks] using hc
      have hv := Limiter.keyView_check_of_ne hk s.clock.now q s.limiter
      rcases hcheck : s.limiter.check s.clock.now k q with ⟨l, r⟩
      rw [hcheck] at hv
      simpa [step, hcheck, KeyView.after] using hv
  | checkWithPolicies k ps =>
      have hk : k ≠ key := fun h => hcw ps (h ▸ rfl)
      simp only [step, KeyView.after]
      split
      · exact Limiter.keyView_checkWithPolicies_of_ne hk ‹_›
      · rfl
  | reset k =>
      simp only [step, KeyView.after]
      split
      · subst k
        exact Limiter.keyView_reset_self _ _
      · exact Limiter.keyView_reset_of_ne ‹_› _
  | evictIdle ttl =>
      have hv := Limiter.keyView_evictIdle key s.clock.now ttl s.limiter
      rcases he : s.limiter.evictIdle s.clock.now ttl with ⟨l, n⟩
      rw [he] at hv
      simpa [step, he, KeyView.after] using hv
  | sweep interval ttl =>
      simp only [step, KeyView.after]
      split
      · rfl
      · have hv := Limiter.keyView_evictIdle key s.clock.now ttl s.limiter
        rcases he : s.limiter.evictIdle s.clock.now ttl with ⟨l, n⟩
        rw [he] at hv
        simpa [he] using hv
  | advance d =>
      simp only [step, KeyView.after]
      split <;> rfl
  | _ => rfl

end Session

namespace Limiter

mutual

/-- Every discipline of the limiter, checked under the policy it uses when the limiter is
checked under `p`, keeps a key's state for as long as the state carries history, at clock
readings up to `bound`: one window after `bound` is still below the clock's maximum, and a
bucket's hold refills its capacity (`TokenBucket.Refills`). -/
def HoldsUntil (bound : Duration) : Policy → Limiter → Prop
  | p, tokenBucket l => TokenBucket.Refills l.multiplier p bound
  | p, slidingLog _ => bound.nanos + p.window.nanos < Duration.limit
  | p, fixedWindow _ => bound.nanos + p.window.nanos < Duration.limit
  | p, composite ms => MembersHoldUntil bound p ms

/-- Every member holds its states long enough under the policy it is checked with. -/
def MembersHoldUntil (bound : Duration) : Policy → List Member → Prop
  | _, [] => True
  | p, Member.mk _ q l :: ms => HoldsUntil bound (q.getD p) l ∧ MembersHoldUntil bound p ms

end

variable {key : String} {bound now : Duration}

mutual

/-- Two runs that both hold nothing for the key are in step. -/
theorem shadow_clear :
    ∀ (p : Policy) (l : Limiter), HoldsUntil bound p l →
      KeyView.Shadow bound now p (l.keyView key).clear (l.keyView key).clear
  | _, tokenBucket _, h => ⟨rfl, Keyed.Shadow.nil (TokenBucket.reaps h)⟩
  | _, slidingLog l, h => ⟨rfl, Keyed.Shadow.nil (SlidingLog.reaps l.maxEntries h)⟩
  | _, fixedWindow _, h => Keyed.Shadow.nil (FixedWindow.reaps h)
  | p, composite ms, h => membersShadow_clear p ms h

theorem membersShadow_clear :
    ∀ (p : Policy) (ms : List Member), MembersHoldUntil bound p ms →
      KeyView.MembersShadow bound now p (KeyView.mapMembers (fun _ => []) (membersView key ms))
        (KeyView.mapMembers (fun _ => []) (membersView key ms))
  | _, [], _ => trivial
  | p, Member.mk _ q l :: ms, ⟨hl, hms⟩ =>
      ⟨rfl, rfl, shadow_clear (q.getD p) l hl, membersShadow_clear p ms hms⟩

end

end Limiter

namespace Session

variable {key : String} {p : Policy} {bound : Duration}

/-- From sessions in step, the run with evictions and the run without them answer the key's
checks alike. The induction is on the run; the views of the key stay in step after each
step. -/
theorem keyChecks_shadow :
    ∀ (s₁ s₂ : Session) (cs : List Command), s₁.clock = s₂.clock → (s₁.run cs).1.clock.now ≤ bound →
      KeyView.Shadow bound s₁.clock.now p (s₁.limiter.keyView key) (s₂.limiter.keyView key) →
      (∀ c ∈ cs, c.checks key → c = .check key p) → (∀ ps, .checkWithPolicies key ps ∉ cs) →
      s₁.keyChecks key cs = s₂.keyChecks key (cs.filter fun c => !c.evicts)
  | _, _, [], _, _, _, _, _ => rfl
  | s₁, s₂, c :: cs, hclock, hend, h, hkey, hcw => by
      rw [run_cons_fst] at hend
      have hnow : s₁.clock.now ≤ bound := (now_le_step s₁ c).trans ((now_le_run _ cs).trans hend)
      have hkey' : ∀ c ∈ cs, c.checks key → c = .check key p := fun c hc => hkey c (List.mem_cons_of_mem _ hc)
      have hcw' : ∀ ps, .checkWithPolicies key ps ∉ cs := fun ps hps => hcw ps (List.mem_cons_of_mem _ hps)
      by_cases hck : c.checks key = true
      · -- a check of the key, taken in both runs
        obtain rfl : c = .check key p := hkey c List.mem_cons_self hck
        rw [List.filter_cons_of_pos (by rfl)]
        obtain ⟨hr, hs⟩ := Limiter.check_shadow hnow p s₁.limiter s₂.limiter h
        rcases hc₁ : s₁.limiter.check s₁.clock.now key p with ⟨l₁, r₁⟩
        rcases hc₂ : s₂.limiter.check s₁.clock.now key p with ⟨l₂, r₂⟩
        rw [hc₁, hc₂] at hr hs
        have hstep₁ : s₁.step (.check key p) = ({ s₁ with limiter := l₁ }, answer r₁) := by
          simp [step, hc₁]
        have hstep₂ : s₂.step (.check key p) = ({ s₂ with limiter := l₂ }, answer r₂) := by
          simp [step, ← hclock, hc₂]
        rw [hstep₁] at hend
        simp only at hr hs
        simp only [keyChecks, hck, if_true, hstep₁, hstep₂]
        refine congrArg₂ List.cons (by rw [hclock, hr]) ?_
        exact keyChecks_shadow { s₁ with limiter := l₁ } { s₂ with limiter := l₂ } cs hclock hend hs
          hkey' hcw'
      · have hck' : c.checks key = false := by simpa using hck
        have hc : ∀ ps, c ≠ .checkWithPolicies key ps := fun ps he => hcw ps (he ▸ List.mem_cons_self)
        have hclock' : (s₁.step c).1.clock = (s₂.step c).1.clock := by
          rw [step_clock, step_clock, hclock]
        simp only [keyChecks, hck', Bool.false_eq_true, if_false]
        by_cases hev : c.evicts = true
        · -- an eviction, taken in the first run only
          obtain ⟨ttl, rfl⟩ : ∃ ttl, c = .evictIdle ttl := by
            cases c <;> simp_all [Command.evicts]
          rw [List.filter_cons_of_neg (by simp [Command.evicts])]
          refine keyChecks_shadow _ s₂ cs (by rw [step_clock]; exact hclock) hend ?_ hkey' hcw'
          rw [keyView_step s₁ hck' hc, step_clock]
          exact h.evict_left hnow ttl
        · rw [List.filter_cons_of_pos (by simpa using hev)]
          simp only [keyChecks, hck', Bool.false_eq_true, if_false]
          refine keyChecks_shadow _ _ cs hclock' hend ?_ hkey' hcw'
          rw [keyView_step s₁ hck' hc, keyView_step s₂ hck' hc, ← hclock]
          exact (h.after key (by simpa using hev)).mono (now_le_step s₁ c)

end Session

/-- Idle eviction is invisible to a key's checks. In every run from a limiter that holds
nothing for the key, where the key is checked under one policy `p` and never with
per-member policies, and where every discipline keeps the key's state as long as it
carries history up to the run's last clock reading, the key's checks answer exactly as in
the same run with every eviction of idle keys removed. -/
theorem evictIdle_transparent {s : Session} {key : String} {p : Policy} {cs : List Command}
    (hnew : s.limiter.reset key = s.limiter)
    (hholds : Limiter.HoldsUntil (s.run cs).1.clock.now p s.limiter)
    (hkey : ∀ c ∈ cs, c.checks key → c = .check key p)
    (hcw : ∀ ps, Command.checkWithPolicies key ps ∉ cs) :
    s.keyChecks key cs = s.keyChecks key (cs.filter fun c => !c.evicts) := by
  have hview : s.limiter.keyView key = (s.limiter.keyView key).clear := by
    conv_lhs => rw [← hnew]
    exact Limiter.keyView_reset_self key s.limiter
  refine Session.keyChecks_shadow s s cs rfl le_rfl ?_ hkey hcw
  rw [hview]
  exact Limiter.shadow_clear p s.limiter hholds

/-- A burst on a composite of a bucket and a window, three idle minutes in which both
states expire, and a burst again: evicting idle keys before and after the idle spell
changes none of the client's answers. -/
theorem evictIdle_transparent_idle_spell :
    let p := Policy.ofSecs 3 60
    let s : Session := ⟨⟨Duration.ofSecs 1000⟩, .composite
      [.mk "burst" none (.tokenBucket TokenBucket.standard),
        .mk "steady" none (.fixedWindow FixedWindow.standard)]⟩
    let cs := [Command.check "client" p, .check "client" p, .evictIdle Duration.zero,
      .advance (Duration.ofSecs 180), .evictIdle Duration.zero, .check "other" p, .check "client" p]
    s.limiter.reset "client" = s.limiter ∧
      Limiter.HoldsUntil (s.run cs).1.clock.now p s.limiter ∧
      (∀ c ∈ cs, c.checks "client" → c = .check "client" p) ∧
      (∀ ps, Command.checkWithPolicies "client" ps ∉ cs) ∧
      s.keyChecks "client" cs = s.keyChecks "client" (cs.filter fun c => !c.evicts) := by
  intro p s cs
  have hnew : s.limiter.reset "client" = s.limiter := rfl
  have hclock : (s.run cs).1.clock.now = Duration.ofSecs 1180 := by
    simp only [cs, Session.run, Session.step_clock]
    decide
  have hbucket : TokenBucket.Refills TokenBucket.standard.multiplier p (Duration.ofSecs 1180) := by
    -- capacity 6 and a hold of 120 s, in which the rate `fl (3 / 60)` refills a little over 6
    refine ⟨by decide, by decide +kernel, 6, ?_, by decide +kernel⟩
    exact ⟨6755399441055744, -50, ⟨by norm_num, by decide, by decide⟩, by decide +kernel, by norm_num⟩
  have hholds : Limiter.HoldsUntil (s.run cs).1.clock.now p s.limiter := by
    rw [hclock]
    exact ⟨hbucket, by simp only [Limiter.HoldsUntil]; decide, trivial⟩
  have hkey : ∀ c ∈ cs, c.checks "client" → c = .check "client" p := by
    intro c hc hck
    simp only [cs, List.mem_cons, List.not_mem_nil, or_false] at hc
    rcases hc with rfl | rfl | rfl | rfl | rfl | rfl | rfl <;> first | rfl | simp [Command.checks] at hck
  have hcw : ∀ ps, Command.checkWithPolicies "client" ps ∉ cs := by
    intro ps hps
    simp [cs] at hps
  exact ⟨hnew, hholds, hkey, hcw, evictIdle_transparent hnew hholds hkey hcw⟩

end Throttle
