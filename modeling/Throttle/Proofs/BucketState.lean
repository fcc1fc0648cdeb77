import Mathlib
import Throttle.Proofs.Ranges
import Throttle.Proofs.Counting

/-! # What a bucket holds

Every bucket that a token-bucket limiter keeps holds from zero up to the capacity of the
policy of its key's last check, `limit × multiplier` in binary64: a number, infinite only
where that capacity is. Its last refill is the instant of that check, which the clock has
reached.

The last check of a key is a ghost of the run (`Session.lastCheck`); policies may change
from check to check, so a bucket filled under a large capacity may meet a smaller one.
What carries the bound is that a refill is capped at the capacity of the check at hand and
is not-a-number at worst, which the cap turns into the capacity itself. The invariant
(`TokenBucket.StoreFits`) is kept by every kind of step (`Keyed.step_store`), hence by every
run from a new limiter.
-/

namespace Throttle

/-! ## Binary64 values of zero or more -/

namespace Binary64

theorem Nonneg.ne_nan {x : Binary64} (h : x.Nonneg) : x ≠ nan := by
  rcases h with rfl | ⟨v, m, e, -, rfl, -⟩ <;> simp

theorem add_nan (x : Binary64) : x + nan = nan := by
  cases x <;> rfl

theorem add_nonneg_or_nan {x y : Binary64} (hx : x.Nonneg) (hy : y = nan ∨ y.Nonneg) :
    x + y = nan ∨ (x + y).Nonneg := by
  rcases hy with rfl | hy
  · exact .inl (add_nan x)
  · exact .inr (add_nonneg hx hy)

/-- A finite number times a value of zero or more; zero times the infinity is not-a-number. -/
theorem mul_nonneg_or_nan {x y : Binary64} {u : ℚ} (hx : x.Represents u) (hy : y.Nonneg) :
    x * y = nan ∨ (x * y).Nonneg := by
  rcases hy with rfl | ⟨v, hv⟩
  · obtain ⟨m, e, -, rfl, -⟩ := hx
    show mul _ _ = nan ∨ (mul _ _).Nonneg
    by_cases hm : m = 0
    · simp [mul, hm]
    · simp [mul, hm, Nonneg]
  · exact .inr (mul_nonneg hx hv)

theorem mul_pos_nonneg {x : Binary64} (hx : x.Nonneg) {k : ℕ} (hk : k ≠ 0) (e : ℤ) :
    (x * finite false k e).Nonneg := by
  rcases hx with rfl | ⟨v, a, b, -, rfl, -⟩
  · exact .inl (by simp [HMul.hMul, Mul.mul, mul, hk])
  · obtain ⟨N, D, hD, -, heq⟩ := mul_eq_ofRatio a k b e
    rw [heq]
    exact ofRatio_nonneg hD

theorem div_nonneg {x y : Binary64} {v : ℚ} (hx : x.Nonneg) (hy : y.Represents v) (hv : 0 < v) :
    (x / y).Nonneg := by
  obtain ⟨n, f, -, rfl, rfl⟩ := hy
  have hn : 0 < n := by
    rcases Nat.eq_zero_or_pos n with rfl | hn
    · simp at hv
    · exact hn
  rcases hx with rfl | ⟨u, m, e, -, rfl, -⟩
  · exact .inl rfl
  · obtain ⟨N, D, hD, -, heq⟩ := div_eq_ofRatio m n e f hn
    rw [heq]
    exact ofRatio_nonneg hD

theorem le_inf {x : Binary64} (hx : x ≠ nan) : le x (inf false) = true := by
  cases x with
  | nan => exact absurd rfl hx
  | inf s => cases s <;> rfl
  | finite s m e => rfl

theorem minNum_inf_left {C : Binary64} (hC : C.Nonneg) : minNum (inf false) C = C := by
  rcases hC with rfl | ⟨w, hw⟩
  · rfl
  · exact minNum_inf hw

theorem minNum_inf_right {x : Binary64} (hx : x ≠ nan) : minNum x (inf false) = x := by
  cases x with
  | nan => exact absurd rfl hx
  | inf s => cases s <;> rfl
  | finite s m e => rfl

/-- A multiplier that a bucket limiter accepts is a positive finite datum. -/
theorem pos_of_accepted {m : Binary64} (hm : (!m.isFinite || m.le 0) = false) :
    ∃ k e, m = finite false k e ∧ k ≠ 0 := by
  obtain ⟨s, k, e, rfl, hk⟩ := mant_ne_zero_of_accepted hm
  cases s
  · exact ⟨k, e, rfl, hk⟩
  · -- a negative datum is below zero, and the limiter refuses it
    have h0 : (0 : Binary64) = finite false 0 minExp := ofRatio_zero false 1
    have hneg : -((k : ℤ) * 2 ^ (e - min e minExp).toNat) < 0 :=
      neg_lt_zero.mpr (Int.mul_pos (by exact_mod_cast Nat.pos_of_ne_zero hk) (by positivity))
    simp [isFinite, Binary64.le, h0, compare?, aligned] at hm
    exact absurd (compare_lt_iff_lt.mpr hneg) hm.1

end Binary64

theorem Policy.rate_nonneg {p : Policy} (hp : p.validate = .ok ()) : p.rate.Nonneg := by
  obtain ⟨w, hw, -, hw30⟩ := p.window.toSeconds_represents
  have hwpos : 0 < w := lt_of_lt_of_le (Binary64.two_zpow_pos _) (hw30 (Policy.validate_eq_ok.mp hp).2)
  exact Binary64.div_nonneg (Binary64.ofRatio_nonneg one_pos) hw hwpos

namespace TokenBucket

theorem create_eq_ok {m : Binary64} {b : TokenBucket} :
    create m = .ok b ↔ (!m.isFinite || m.le 0) = false ∧ b = ⟨m, .empty⟩ := by
  unfold create
  split
  · rename_i h
    simp [h]
  · rename_i h
    simp only [Bool.not_eq_true] at h
    simp [h, eq_comm]

theorem capacity_nonneg {m : Binary64} (hm : (!m.isFinite || m.le 0) = false) (st : KeyStore Bucket)
    (p : Policy) : (capacity ⟨m, st⟩ p).Nonneg := by
  obtain ⟨k, e, rfl, hk⟩ := Binary64.pos_of_accepted hm
  exact Binary64.mul_pos_nonneg (Binary64.ofRatio_nonneg one_pos) hk e

/-! ## Tokens from zero up to a capacity -/

/-- Tokens from zero up to the capacity `C`: a finite number, or the positive infinity where
the capacity is infinite. -/
def Fill (C tokens : Binary64) : Prop := tokens.Nonneg ∧ Binary64.le tokens C = true

variable {C x : Binary64}

theorem fill_self (hC : C.Nonneg) : Fill C C := by
  refine ⟨hC, ?_⟩
  rcases hC with rfl | ⟨w, hw⟩
  · rfl
  · exact (Binary64.le_iff_of_represents hw hw).mpr le_rfl

/-- Capping at the capacity a value of zero or more, or not-a-number, fills the bucket up to
the capacity at most. -/
theorem fill_minNum (hx : x = .nan ∨ x.Nonneg) (hC : C.Nonneg) : Fill C (Binary64.minNum x C) := by
  rcases hx with rfl | hx
  · exact fill_self hC
  rcases hx with rfl | ⟨u, hu⟩
  · rw [Binary64.minNum_inf_left hC]
    exact fill_self hC
  rcases hC with rfl | ⟨w, hw⟩
  · rw [Binary64.minNum_inf_right hu.nonneg'.ne_nan]
    exact ⟨hu.nonneg', Binary64.le_inf hu.nonneg'.ne_nan⟩
  · have hmin := Binary64.minNum_of_represents hu hw
    exact ⟨hmin.nonneg', (Binary64.le_iff_of_represents hmin hw).mpr (min_le_right u w)⟩

theorem Fill.sub_one (hC : C.Nonneg) (h : Fill C x) (h1 : Binary64.le 1 x = true) :
    Fill C (x - 1) := by
  obtain ⟨hx, hxC⟩ := h
  rcases hx with rfl | ⟨u, hu⟩
  · exact ⟨.inl rfl, hxC⟩
  have hu1 : 1 ≤ u := (Binary64.le_iff_of_represents Binary64.one_represents hu).mp h1
  obtain ⟨w, hw, hwu⟩ := Binary64.sub_le_of_represents hu Binary64.one_represents hu1
  refine ⟨hw.nonneg', ?_⟩
  rcases hC with rfl | ⟨c, hc⟩
  · exact Binary64.le_inf hw.nonneg'.ne_nan
  · have huc := (Binary64.le_iff_of_represents hu hc).mp hxC
    exact (Binary64.le_iff_of_represents hw hc).mpr (hwu.trans huc)

/-- What filling up to the capacity says in binary64 comparisons: zero or more, at most the
capacity, a number, and infinite only where the capacity is. -/
theorem Fill.spec (h : Fill C x) :
    Binary64.le 0 x = true ∧ Binary64.le x C = true ∧ x.isNaN = false ∧
      (x = .inf false → C = .inf false) := by
  obtain ⟨hx, hxC⟩ := h
  have hzero : (0 : Binary64).Represents 0 := by
    rw [show (0 : Binary64) = Binary64.zero from Binary64.ofRatio_zero false 1]
    exact Binary64.zero_represents
  refine ⟨?_, hxC, Binary64.isNaN_eq_false.mpr hx.ne_nan, ?_⟩
  · rcases hx with rfl | ⟨u, hu⟩
    · exact Binary64.le_inf (by simp [hzero.nonneg'.ne_nan])
    · exact (Binary64.le_iff_of_represents hzero hu).mpr hu.nonneg
  · rintro rfl
    cases C with
    | nan => simp [Binary64.le, Binary64.compare?] at hxC
    | inf s => cases s <;> simp_all [Binary64.le, Binary64.compare?]
    | finite s k e => simp [Binary64.le, Binary64.compare?] at hxC

variable {p : Policy} {rate : Binary64} {bucket : Bucket} {now : Duration}

/-- A refill of a bucket of zero or more tokens, at a rate of zero or more, fills it up to
the capacity at most, whatever capacity it was filled under before. -/
theorem fill_refill (hb : bucket.tokens.Nonneg) (hC : C.Nonneg) (hrate : rate.Nonneg) (now : Duration) :
    Fill C (refill C rate bucket now) := by
  obtain ⟨e, he, -, -⟩ := (now.subSat bucket.lastRefill).toSeconds_represents
  exact fill_minNum (Binary64.add_nonneg_or_nan hb (Binary64.mul_nonneg_or_nan he hrate)) hC

/-- A check leaves a bucket of zero or more tokens filled up to the capacity at most, and
refilled at the check. -/
theorem fill_take (hb : bucket.tokens.Nonneg) (hC : C.Nonneg) (hrate : rate.Nonneg) (now : Duration) :
    Fill C (take p C rate bucket now).1.tokens ∧ (take p C rate bucket now).1.lastRefill = now := by
  have hfill := fill_refill hb hC hrate now
  rw [take_fst]
  refine ⟨?_, rfl⟩
  split
  · exact hfill.sub_one hC ‹_›
  · exact hfill

end TokenBucket

/-! ## What a step does to a keyed store -/

namespace Keyed

variable {σ : Type} (D : Keyed σ) {s : Session} {st : KeyStore σ}

/-- Everything a step can do to the store of a keyed limiter: a check under a valid policy
updates its key at the clock; any other command keeps the store, erases a key or evicts the
keys idle at the clock. -/
theorem step_store (hs : s.limiter = D.rebuild st) (c : Command) :
    ∃ st', (s.step c).1.limiter = D.rebuild st' ∧
      ((∃ k p, c = .check k p ∧ p.validate = .ok () ∧
          st' = (st.update k s.clock.now (D.hold p) (D.init p) (D.step p)).1) ∨
        (∀ k p, c = .check k p → p.validate ≠ .ok ()) ∧
          (st' = st ∨ (∃ k, st' = st.erase k) ∨ ∃ ttl, st' = (st.evictIdle s.clock.now ttl).1)) := by
  cases c with
  | check k q =>
      cases hq : q.validate with
      | ok u =>
          exact ⟨_, by simp [Session.step, hs, D.check_ok _ _ _ _ hq], .inl ⟨k, q, rfl, hq, rfl⟩⟩
      | error e =>
          refine ⟨st, by simp [Session.step, hs, D.check_error _ _ _ _ _ hq], .inr ⟨?_, .inl rfl⟩⟩
          intro k' p' h
          obtain ⟨-, rfl⟩ := Command.check.inj h
          simp [hq]
  | checkWithPolicies k ps =>
      exact ⟨st, by simp [Session.step, hs, D.checkWithPolicies_eq], .inr ⟨by simp, .inl rfl⟩⟩
  | reset k =>
      exact ⟨st.erase k, by simp [Session.step, hs, D.reset_eq], .inr ⟨by simp, .inr (.inl ⟨k, rfl⟩)⟩⟩
  | evictIdle ttl =>
      exact ⟨_, by simp [Session.step, hs, D.evictIdle_eq], .inr ⟨by simp, .inr (.inr ⟨ttl, rfl⟩)⟩⟩
  | sweep interval ttl =>
      by_cases hi : interval.nanos = 0
      · exact ⟨st, by simp [Session.step, hs, hi], .inr ⟨by simp, .inl rfl⟩⟩
      · exact ⟨_, by simp [Session.step, hs, hi, D.evictIdle_eq], .inr ⟨by simp, .inr (.inr ⟨ttl, rfl⟩)⟩⟩
  | advance d =>
      refine ⟨st, ?_, .inr ⟨by simp, .inl rfl⟩⟩
      simp only [Session.step]
      split <;> exact hs
  | advanceTo t => exact ⟨st, hs, .inr ⟨by simp, .inl rfl⟩⟩
  | keyCount => exact ⟨st, hs, .inr ⟨by simp, .inl rfl⟩⟩
  | probe k => exact ⟨st, hs, .inr ⟨by simp, .inl rfl⟩⟩
  | now => exact ⟨st, hs, .inr ⟨by simp, .inl rfl⟩⟩
  | describe => exact ⟨st, hs, .inr ⟨by simp, .inl rfl⟩⟩

end Keyed

/-! ## The last check of a key -/

namespace Session

/-- The clock reading and the policy of the command `c` at `s`, when it checks `key` under a
valid policy. -/
def checkOf (key : String) (s : Session) : Command → Option (Duration × Policy)
  | .check k p => if k = key ∧ p.validate.isOk then some (s.clock.now, p) else none
  | _ => none

/-- The clock reading and the policy of the last check of `key` under a valid policy in a
run. -/
def lastCheck (key : String) : Session → List Command → Option (Duration × Policy)
  | _, [] => none
  | s, c :: cs => ((s.step c).1.lastCheck key cs).or (s.checkOf key c)

theorem checkOf_eq_none {c : Command} (hc : ∀ k p, c = .check k p → p.validate ≠ .ok ())
    (key : String) (s : Session) : s.checkOf key c = none := by
  cases c with
  | check k p =>
      have hp : p.validate.isOk = false := by
        rw [← Bool.not_eq_true, Except.isOk_iff_eq_ok]
        exact hc k p rfl
      simp [checkOf, hp]
  | _ => rfl

theorem checkOf_check {p : Policy} (hp : p.validate = .ok ()) (k key : String) (s : Session) :
    s.checkOf key (.check k p) = if k = key then some (s.clock.now, p) else none := by
  simp [checkOf, Except.isOk_iff_eq_ok.mpr hp]

end Session



/-! ## The invariant -/

theorem KeyStore.slot?_of_mem {σ : Type} {st : KeyStore σ} {k : String} {v : Slot σ}
    (hu : st.Unique k) (hx : (k, v) ∈ st.slots) : st.slot? k = some v := by
  obtain ⟨slots⟩ := st
  induction slots with
  | nil => simp at hx
  | cons y rest ih =>
      simp only [KeyStore.Unique, List.map_cons, List.count_cons] at hu
      rcases List.mem_cons.mp hx with rfl | hrest
      · simp [List.lookup]
      · by_cases hy : y.1 = k
        · -- a second slot for the key would be counted twice
          have hpos : 0 < (rest.map (·.1)).count k :=
            List.count_pos_iff.mpr (List.mem_map.mpr ⟨(k, v), hrest, rfl⟩)
          simp [hy] at hu
          omega
        · rw [KeyStore.slot?_mk, show y = (y.1, y.2) from rfl,
            KeyStore.lookup_cons_of_ne _ _ (Ne.symm hy)]
          exact ih (by simp [KeyStore.Unique]; split at hu <;> omega) hrest

namespace TokenBucket

/-- A kept bucket as the last check of its key, under a valid policy `p`, left it: refilled
at that check and filled up to `p`'s capacity under the multiplier `m` at most, touched at
that check, which the clock `now` has reached. -/
structure SlotFits (m : Binary64) (now : Duration) (last : Option (Duration × Policy))
    (slot : Slot Bucket) : Prop where
  last_eq : ∃ p, last = some (slot.state.lastRefill, p) ∧ p.validate = .ok () ∧
    Fill (capacity ⟨m, .empty⟩ p) slot.state.tokens
  touched_eq : slot.touched = slot.state.lastRefill
  touched_le : slot.touched ≤ now

/-- A store with one slot per key, each as the last check of its key left it. -/
structure StoreFits (m : Binary64) (now : Duration) (last : String → Option (Duration × Policy))
    (st : KeyStore Bucket) : Prop where
  unique : ∀ k, st.Unique k
  slot_fits : ∀ k slot, st.slot? k = some slot → SlotFits m now (last k) slot

variable {m : Binary64} {now : Duration} {last : String → Option (Duration × Policy)}
  {st : KeyStore Bucket}

theorem StoreFits.empty : StoreFits m now last .empty :=
  ⟨fun _ => KeyStore.Unique.of_slot?_eq_none rfl, fun _ _ h => nomatch h⟩

theorem StoreFits.mono (h : StoreFits m now last st) {now' : Duration} (hle : now ≤ now') :
    StoreFits m now' last st := by
  refine ⟨h.unique, fun k slot hk => ?_⟩
  obtain ⟨hlast, heq, hle'⟩ := h.slot_fits k slot hk
  exact ⟨hlast, heq, hle'.trans hle⟩

/-- Forgetting keys keeps the others as they were. -/
theorem StoreFits.of_slot? {st' : KeyStore Bucket} (h : StoreFits m now last st)
    (hu : ∀ k, st'.Unique k) (hslot : ∀ k, st'.slot? k = none ∨ st'.slot? k = st.slot? k) :
    StoreFits m now last st' := by
  refine ⟨hu, fun k slot hk => ?_⟩
  rcases hslot k with hnone | hsame
  · rw [hnone] at hk
    cases hk
  · exact h.slot_fits k slot (hsame ▸ hk)

theorem StoreFits.erase (h : StoreFits m now last st) (key : String) :
    StoreFits m now last (st.erase key) := by
  refine h.of_slot? (fun k => (h.unique k).erase ..) fun k => ?_
  rw [KeyStore.slot?_erase key (h.unique k)]
  split <;> simp

theorem StoreFits.evictIdle (h : StoreFits m now last st) (now' ttl : Duration) :
    StoreFits m now last (st.evictIdle now' ttl).1 := by
  refine h.of_slot? (fun k => (h.unique k).evictIdle now' ttl) fun k => ?_
  rw [KeyStore.slot?_evictIdle _ _ (h.unique k)]
  cases st.slot? k <;> simp [Option.filter]

/-- A check of `key` under a valid policy at the clock leaves its bucket as that check left it,
and the other keys as they were. -/
theorem StoreFits.update (hm : (!m.isFinite || m.le 0) = false) (h : StoreFits m now last st)
    {p : Policy} (hp : p.validate = .ok ()) (key : String) :
    StoreFits m now (Function.update last key (some (now, p)))
      (st.update key now ((keyed m).hold p) ((keyed m).init p) ((keyed m).step p)).1 := by
  refine ⟨fun k => (h.unique k).update .., fun k slot hk => ?_⟩
  rw [KeyStore.slot?_update] at hk
  by_cases hkey : key = k
  · subst hkey
    simp only [if_true, Option.some.injEq] at hk
    subst hk
    have hC := capacity_nonneg hm .empty p
    -- the visit runs at the clock itself, from the kept bucket or from a full new one
    have hle : ∀ x ∈ st.slot? key, x.touched ≤ now := fun x hx => (h.slot_fits key x hx).touched_le
    have hbase : ((st.slot? key).getD ⟨(keyed m).init p now, now, now⟩).state.tokens.Nonneg := by
      cases hx : st.slot? key with
      | none => exact hC
      | some x => exact ((h.slot_fits key x hx).last_eq.choose_spec.2.2).1
    obtain ⟨hfill, hrefill⟩ := fill_take (p := p) hbase hC (Policy.rate_nonneg hp) now
    have hstep : (keyed m).step p = take p (capacity ⟨m, .empty⟩ p) p.rate := rfl
    rw [Slot.visit_of_le _ _ _ hle, hstep]
    exact ⟨⟨p, by simp [hrefill], hp, hfill⟩, hrefill.symm, le_rfl⟩
  · rw [if_neg hkey] at hk
    rw [Function.update_of_ne (Ne.symm hkey)]
    exact h.slot_fits k slot hk

end TokenBucket

namespace Session

/-- The session drives a bucket limiter with the multiplier `m`, whose store fits the last
checks `last`. -/
def BucketsFit (m : Binary64) (last : String → Option (Duration × Policy)) (s : Session) : Prop :=
  ∃ st, s.limiter = (TokenBucket.keyed m).rebuild st ∧ TokenBucket.StoreFits m s.clock.now last st

variable {m : Binary64} {last : String → Option (Duration × Policy)}

/-- Every step keeps the buckets fitting the last checks, the step's own check counted. -/
theorem bucketsFit_step (hm : (!m.isFinite || m.le 0) = false) {s : Session} (h : s.BucketsFit m last)
    (c : Command) : (s.step c).1.BucketsFit m fun k => (s.checkOf k c).or (last k) := by
  obtain ⟨st, hs, hfits⟩ := h
  obtain ⟨st', hs', hcases⟩ := (TokenBucket.keyed m).step_store hs c
  rcases hcases with ⟨key, p, rfl, hp, rfl⟩ | ⟨hnot, hst'⟩
  · -- a check under a valid policy: the clock stays, the key's last check is this one
    have hclock : (s.step (.check key p)).1.clock = s.clock := by
      rw [step_clock_eq]
      rfl
    have hlast : (fun k => (s.checkOf k (.check key p)).or (last k)) =
        Function.update last key (some (s.clock.now, p)) := by
      funext k
      rw [checkOf_check hp]
      by_cases hk : key = k
      · subst hk
        simp
      · simp [hk, Function.update_of_ne (Ne.symm hk)]
    rw [hlast]
    exact ⟨_, hs', hclock ▸ hfits.update hm hp key⟩
  · -- any other command: no last check moves, keys are kept or forgotten, the clock moves on
    have hlast : (fun k => (s.checkOf k c).or (last k)) = last := by
      funext k
      simp [checkOf_eq_none hnot]
    rw [hlast]
    have hle := now_le_step s c
    rcases hst' with rfl | ⟨key, rfl⟩ | ⟨ttl, rfl⟩
    · exact ⟨_, hs', hfits.mono hle⟩
    · exact ⟨_, hs', (hfits.erase key).mono hle⟩
    · exact ⟨_, hs', (hfits.evictIdle _ ttl).mono hle⟩

/-- Every run keeps the buckets fitting the last checks, those of the run counted. -/
theorem bucketsFit_run (hm : (!m.isFinite || m.le 0) = false) :
    ∀ (cs : List Command) (s : Session) (last : String → Option (Duration × Policy)),
      s.BucketsFit m last → (s.run cs).1.BucketsFit m fun k => (s.lastCheck k cs).or (last k)
  | [], s, last, h => by simpa [run, lastCheck] using h
  | c :: cs, s, last, h => by
      have ih := bucketsFit_run hm cs (s.step c).1 _ (bucketsFit_step hm h c)
      rw [run_cons_fst]
      simpa only [lastCheck, Option.or_assoc] using ih

end Session

/-! ## Every run from a new limiter -/

/-- Every bucket that a token-bucket limiter made with an accepted multiplier keeps, after any
run of commands, holds from zero up to the capacity of the policy of its key's last check: a
number, infinite only where that capacity is. Its last refill is the instant of that check,
which the clock has reached. -/
theorem tokenBucket_buckets_in_range {m : Binary64} {b : TokenBucket}
    (hb : TokenBucket.create m = .ok b) (clock : Clock) (cs : List Command) :
    ∃ st, ((⟨clock, .tokenBucket b⟩ : Session).run cs).1.limiter = .tokenBucket ⟨m, st⟩ ∧
      ∀ x ∈ st.slots, ∃ p, Session.lastCheck x.1 ⟨clock, .tokenBucket b⟩ cs =
          some (x.2.state.lastRefill, p) ∧ p.validate = .ok () ∧
        Binary64.le 0 x.2.state.tokens = true ∧ Binary64.le x.2.state.tokens (b.capacity p) = true ∧
        x.2.state.tokens.isNaN = false ∧ (x.2.state.tokens = .inf false → b.capacity p = .inf false) ∧
        x.2.state.lastRefill ≤ ((⟨clock, .tokenBucket b⟩ : Session).run cs).1.clock.now := by
  obtain ⟨hm, rfl⟩ := TokenBucket.create_eq_ok.mp hb
  have hstart : Session.BucketsFit m (fun _ => none) ⟨clock, .tokenBucket ⟨m, .empty⟩⟩ :=
    ⟨.empty, rfl, TokenBucket.StoreFits.empty⟩
  obtain ⟨st, hs, hfits⟩ := Session.bucketsFit_run hm cs _ _ hstart
  refine ⟨st, hs, ?_⟩
  rintro ⟨k, slot⟩ hx
  obtain ⟨⟨p, hlast, hp, hfill⟩, heq, hle⟩ :=
    hfits.slot_fits k slot (KeyStore.slot?_of_mem (hfits.unique k) hx)
  obtain ⟨hzero, hcap, hnan, hinf⟩ := hfill.spec
  rw [Option.or_none] at hlast
  exact ⟨p, hlast, hp, hzero, hcap, hnan, hinf, heq ▸ hle⟩

/-- A bucket filled under three requests a second, then checked under one a second, holds at
most one token; a bucket that was reset is gone, and a refused policy changes nothing. -/
theorem tokenBucket_buckets_in_range_policy_change :
    let s : Session := ⟨⟨Duration.ofSecs 0⟩, .tokenBucket TokenBucket.standard⟩
    let cs := [Command.check "a" (Policy.ofSecs 3 1), .advance (Duration.ofSecs 1),
      .check "a" (Policy.ofSecs 1 1), .check "b" (Policy.ofSecs 2 4), .reset "b",
      .check "a" (Policy.ofSecs 0 1)]
    TokenBucket.create 2 = .ok TokenBucket.standard ∧
      ∃ st, (s.run cs).1.limiter = .tokenBucket ⟨2, st⟩ ∧
        ∀ x ∈ st.slots, ∃ p, s.lastCheck x.1 cs = some (x.2.state.lastRefill, p) ∧
          p.validate = .ok () ∧ Binary64.le 0 x.2.state.tokens = true ∧
          Binary64.le x.2.state.tokens (TokenBucket.standard.capacity p) = true ∧
          x.2.state.tokens.isNaN = false ∧
          (x.2.state.tokens = .inf false → TokenBucket.standard.capacity p = .inf false) ∧
          x.2.state.lastRefill ≤ (s.run cs).1.clock.now := by
  have hb : TokenBucket.create 2 = .ok TokenBucket.standard :=
    TokenBucket.create_eq_ok.mpr ⟨by decide +kernel, rfl⟩
  exact ⟨hb, tokenBucket_buckets_in_range hb _ _⟩

end Throttle
