import Mathlib
import Throttle.Proofs.Binary64
import Throttle.Proofs.Session

/-! # Token buckets at one instant

A bucket's tokens stay a finite value between zero and the capacity. Checks that share one
clock reading see no refill after the first, and while the capacity is at most `2 ^ 53`
taking a token is exact. So at any single instant a key is admitted at most `⌊C⌋` times,
and a burst on a fresh or full bucket admits exactly the first `⌊C⌋` checks, the `j`-th
with `⌊C⌋ - j` requests remaining (`tokenBucket_instant_admissions`).
-/

namespace Throttle

open Binary64

/-! ## Seconds and rates -/

theorem Binary64.ofNat_between {n : ℕ} (hn : n < 2 ^ 64) :
    ∃ w, (ofNat n).Represents w ∧ (1 ≤ n → 1 ≤ w) ∧ w ≤ 2 ^ (64 : ℤ) := by
  have hhi : Representable (2 ^ (64 : ℤ)) := representable_two_zpow (by decide) (by decide)
  have hle : (n : ℚ) / ((1 : ℕ) : ℚ) ≤ 2 ^ (64 : ℤ) := by
    rw [Nat.cast_one, div_one]
    exact_mod_cast hn.le
  rcases Nat.eq_zero_or_pos n with rfl | hpos
  · obtain ⟨w, hw, hwhi⟩ := ofRatio_le one_pos hhi hle
    refine ⟨w, hw, fun h => absurd h (by norm_num), hwhi⟩
  · obtain ⟨w, hw, h1, h2⟩ := ofRatio_between one_pos one_represents.representable hhi
      (by rw [Nat.cast_one, div_one]; exact_mod_cast hpos) hle
    exact ⟨w, hw, fun _ => h1, h2⟩

theorem Binary64.ofNat_represents {n : ℕ} (hn : n < 2 ^ 53) : (ofNat n).Represents n :=
  ofRatio_exact one_pos (representable_natCast hn) (div_one _)

theorem Duration.secs_lt (d : Duration) : d.secs < 2 ^ 64 := by
  have := d.nanos_lt
  simp only [Duration.secs, nanosPerSecond, Nat.pow_eq] at this ⊢
  omega

/-- The fraction of a second past a duration's whole seconds, rounded once. -/
theorem Duration.fraction_rounds (d : Duration) :
    (ofNat d.subsecNanos / ofNat nanosPerSecond).Rounds (d.subsecNanos / nanosPerSecond) :=
  div_rounds (ofNat_represents (lt_trans (Nat.mod_lt _ (by decide)) (by decide)))
    (ofNat_represents (by decide)) (by norm_num [nanosPerSecond])

/-- The fraction of a second past a duration's whole seconds reads as less than one. -/
theorem Duration.fraction_lt_one (d : Duration) :
    ∃ q, (ofNat d.subsecNanos / ofNat nanosPerSecond).Represents q ∧ q < 1 := by
  -- the largest value below one: `1 - 2 ^ -53`, above `1 - 10 ^ -9`
  have hy : Representable (1 - 2 ^ (-53 : ℤ)) :=
    ⟨2 ^ 53 - 1, -53, ⟨by norm_num, by decide, by decide⟩, by norm_num⟩
  have hsub : (d.subsecNanos : ℚ) + 1 ≤ nanosPerSecond := by
    exact_mod_cast Nat.mod_lt d.nanos (by decide : 0 < nanosPerSecond)
  obtain ⟨q, hq, hq1⟩ := d.fraction_rounds.upper hy (by
    rw [div_le_iff₀ (by norm_num [nanosPerSecond])]
    have : (1 - 2 ^ (-53 : ℤ) : ℚ) * nanosPerSecond = nanosPerSecond - nanosPerSecond * 2 ^ (-53 : ℤ) := by ring
    rw [this]
    have : (nanosPerSecond : ℚ) * 2 ^ (-53 : ℤ) ≤ 1 := by norm_num [nanosPerSecond]
    linarith)
  exact ⟨q, hq, lt_of_le_of_lt hq1 (by norm_num)⟩

/-- A duration reads as a finite number of seconds: zero for the empty duration, and at
least `2 ^ -30` for any other. -/
theorem Duration.toSeconds_represents (d : Duration) :
    ∃ w, d.toSeconds.Represents w ∧ (d.nanos = 0 → w = 0) ∧ (0 < d.nanos → 2 ^ (-30 : ℤ) ≤ w) := by
  have hlo : Representable (2 ^ (-30 : ℤ)) := representable_two_zpow (by decide) (by decide)
  have hhi : Representable (2 ^ (65 : ℤ)) := representable_two_zpow (by decide) (by decide)
  obtain ⟨s, hs, hs1, hs64⟩ := ofNat_between d.secs_lt
  obtain ⟨q, hq, hq1⟩ := d.fraction_lt_one
  rw [Duration.toSeconds]
  rcases Nat.eq_zero_or_pos d.nanos with h0 | hpos
  · -- the empty duration is zero seconds exactly
    have hs0 : s = 0 := hs.unique (by
      rw [show d.secs = 0 by simp [Duration.secs, h0]]
      exact ofNat_represents (by norm_num))
    have hq0 : q = 0 := le_antisymm
      (d.fraction_rounds.le hq representable_zero (by simp [Duration.subsecNanos, h0])) hq.nonneg
    have hw := add_exact hs hq (by rw [hs0, hq0, add_zero]; exact representable_zero)
    exact ⟨s + q, hw, fun _ => by rw [hs0, hq0, add_zero], fun h => absurd h (by omega)⟩
  · -- whole seconds or a fraction of one is there
    have hlow : (2 : ℚ) ^ (-30 : ℤ) ≤ s + q := by
      rcases Nat.eq_zero_or_pos d.subsecNanos with hsub0 | hsubpos
      · have hsec1 : 1 ≤ d.secs := by
          simp only [Duration.subsecNanos, Duration.secs, nanosPerSecond] at hsub0 ⊢
          omega
        have : (2 : ℚ) ^ (-30 : ℤ) ≤ 1 := by norm_num
        linarith [hs1 hsec1, hq.nonneg]
      · -- one nanosecond is more than `2 ^ -30` seconds
        have hq30 : (2 : ℚ) ^ (-30 : ℤ) ≤ q := d.fraction_rounds.ge hq hlo (by
          have h1 : (1 : ℚ) ≤ d.subsecNanos := by exact_mod_cast hsubpos
          rw [le_div_iff₀ (by norm_num [nanosPerSecond])]
          calc (2 : ℚ) ^ (-30 : ℤ) * nanosPerSecond ≤ 1 := by norm_num [nanosPerSecond]
            _ ≤ _ := h1)
        linarith [hs.nonneg]
    have hhigh : s + q ≤ 2 ^ (65 : ℤ) := by
      have : (2 : ℚ) ^ (64 : ℤ) + 1 ≤ 2 ^ (65 : ℤ) := by norm_num
      linarith
    obtain ⟨w, hw, h1, -⟩ := add_between hs hq hlo hhi hlow hhigh
    exact ⟨w, hw, fun h => absurd h (by omega), fun _ => h1⟩

/-- From `2 ^ 53` whole seconds on, a duration reads as its whole seconds rounded. -/
theorem Duration.toSeconds_of_large (d : Duration) (h : 2 ^ 53 ≤ d.secs) :
    ∃ s, (ofNat d.secs).Represents s ∧ 2 ^ 53 ≤ s ∧ d.toSeconds.Represents s := by
  obtain ⟨s, hs, -, -⟩ := ofNat_between d.secs_lt
  obtain ⟨q, hq, hq1⟩ := d.fraction_lt_one
  have h53 : (2 : ℚ) ^ (53 : ℤ) ≤ s := (ofNat_rounds d.secs).ge hs
    (representable_two_zpow (by decide) (by decide)) (by exact_mod_cast h)
  refine ⟨s, hs, by simpa using h53, ?_⟩
  rw [Duration.toSeconds]
  exact add_represents_of_lt_one ((ofNat_rounds d.secs).canonical hs) hs (by simpa using h53) hq hq1

/-- Reading durations as seconds keeps their order. -/
theorem Duration.toSeconds_mono {d₁ d₂ : Duration} (h : d₁ ≤ d₂) {w₁ w₂ : ℚ} (hw₁ : d₁.toSeconds.Represents w₁)
    (hw₂ : d₂.toSeconds.Represents w₂) : w₁ ≤ w₂ := by
  have hsecs : d₁.secs ≤ d₂.secs := Nat.div_le_div_right h
  obtain ⟨q₁, hq₁, hq₁1⟩ := d₁.fraction_lt_one
  obtain ⟨q₂, hq₂, hq₂1⟩ := d₂.fraction_lt_one
  rcases lt_or_ge d₂.secs (2 ^ 53) with hsmall | hlarge
  · -- below `2 ^ 53` whole seconds are exact, and the sum is monotone
    have hs₁ := ofNat_represents (lt_of_le_of_lt hsecs hsmall)
    have hs₂ := ofNat_represents hsmall
    have hsum : (d₁.secs : ℚ) + q₁ ≤ d₂.secs + q₂ := by
      rcases lt_or_eq_of_le hsecs with hlt | heq
      · have : (d₁.secs : ℚ) + 1 ≤ d₂.secs := by exact_mod_cast hlt
        linarith [hq₂.nonneg]
      · -- one whole second: the fractions compare as the nanoseconds past it
        have hsub : d₁.subsecNanos ≤ d₂.subsecNanos := by
          rw [Duration.le_iff_nanos] at h
          simp only [Duration.secs, Duration.subsecNanos, nanosPerSecond] at heq ⊢
          omega
        have hq : q₁ ≤ q₂ := d₁.fraction_rounds.mono d₂.fraction_rounds
          (div_le_div_of_nonneg_right (by exact_mod_cast hsub) (by positivity)) hq₁ hq₂
        rw [heq]
        linarith
    exact (add_rounds hs₁ hq₁).mono (add_rounds hs₂ hq₂) hsum hw₁ hw₂
  · -- from `2 ^ 53` on the later duration reads as its whole seconds
    obtain ⟨s₂, hs₂, h53, hw₂'⟩ := d₂.toSeconds_of_large hlarge
    rw [hw₂.unique hw₂']
    rcases lt_or_ge d₁.secs (2 ^ 53) with hsmall₁ | hlarge₁
    · have hs₁ := ofNat_represents hsmall₁
      have : (d₁.secs : ℚ) + 1 ≤ 2 ^ 53 := by exact_mod_cast hsmall₁
      have hle : w₁ ≤ 2 ^ (53 : ℤ) := (add_rounds hs₁ hq₁).le hw₁
        (representable_two_zpow (by decide) (by decide)) (by norm_num; linarith)
      norm_num at hle
      linarith
    · obtain ⟨s₁, hs₁, -, hw₁'⟩ := d₁.toSeconds_of_large hlarge₁
      rw [hw₁.unique hw₁']
      exact (ofNat_rounds _).mono (ofNat_rounds _) (by exact_mod_cast hsecs) hs₁ hs₂

/-- The rate of a valid policy with a 64-bit limit is a finite number of requests per
second. -/
theorem Policy.rate_represents {p : Policy} (hp : p.validate = .ok ()) (hL : p.limit < 2 ^ 64) :
    ∃ r, p.rate.Represents r := by
  obtain ⟨l, hl, -, hl64⟩ := ofNat_between hL
  obtain ⟨w, hw, -, hw30⟩ := p.window.toSeconds_represents
  have hw' := hw30 (Policy.validate_eq_ok.mp hp).2
  have hwpos : 0 < w := lt_of_lt_of_le (two_zpow_pos _) hw'
  obtain ⟨r, hr, -, -⟩ := div_between hl hw hwpos representable_zero
    (representable_two_zpow (by decide) (by decide) : Representable (2 ^ (94 : ℤ)))
    (div_nonneg hl.nonneg hw.nonneg) (by
      rw [div_le_iff₀ hwpos]
      calc l ≤ 2 ^ (64 : ℤ) := hl64
        _ = 2 ^ (94 : ℤ) * 2 ^ (-30 : ℤ) := by norm_num
        _ ≤ 2 ^ (94 : ℤ) * w := mul_le_mul_of_nonneg_left hw' (by positivity))
  exact ⟨r, hr⟩

/-! ## One check -/

namespace TokenBucket

/-- The tokens a bucket holds once refilled at `now`: the time since its last refill times
the rate is added, and the sum capped at the capacity. -/
def refill (capacity rate : Binary64) (bucket : Bucket) (now : Duration) : Binary64 :=
  Binary64.minNum (bucket.tokens + (now.subSat bucket.lastRefill).toSeconds * rate) capacity

/-- A bucket holding a finite value of at most `c` tokens. -/
def Within (c : ℚ) (bucket : Bucket) : Prop := ∃ t, bucket.tokens.Represents t ∧ t ≤ c

variable {p : Policy} {C rate : Binary64} {c r : ℚ} {bucket : Bucket} {now : Duration}

theorem take_fst (p : Policy) (C rate : Binary64) (bucket : Bucket) (now : Duration) :
    (take p C rate bucket now).1 =
      ⟨if Binary64.le 1 (refill C rate bucket now) then refill C rate bucket now - 1
        else refill C rate bucket now, now⟩ := by
  unfold take refill
  dsimp only
  split <;> simp_all

theorem take_allowed (p : Policy) (C rate : Binary64) (bucket : Bucket) (now : Duration) :
    (take p C rate bucket now).2.allowed = Binary64.le 1 (refill C rate bucket now) := by
  unfold take refill
  dsimp only
  split <;> simp_all [Decision.allowed, Decision.allow, Decision.deny]

theorem take_remaining (p : Policy) (C rate : Binary64) (bucket : Bucket) (now : Duration) :
    (take p C rate bucket now).2.remaining =
      if Binary64.le 1 (refill C rate bucket now) then
        (refill C rate bucket now - 1).floor.toNatClamped
      else 0 := by
  unfold take refill
  dsimp only
  split <;> simp_all [Decision.remaining, Decision.allow, Decision.deny]

section Refill

variable (hC : C.Represents c) (hrate : rate.Represents r)
include hC hrate

/-- A refill never leaves more than the capacity. -/
theorem refill_within (hb : Within c bucket) (now : Duration) :
    ∃ t, (refill C rate bucket now).Represents t ∧ t ≤ c := by
  obtain ⟨t, ht, -⟩ := hb
  obtain ⟨e, he, -, -⟩ := (now.subSat bucket.lastRefill).toSeconds_represents
  rcases add_nonneg ht.nonneg' (mul_nonneg he hrate) with hinf | ⟨u, hu⟩
  · refine ⟨c, ?_, le_rfl⟩
    rw [refill, hinf, minNum_inf hC]
    exact hC
  · exact ⟨min u c, minNum_of_represents hu hC, min_le_right _ _⟩

/-- At or before its last refill, a bucket refills nothing. -/
theorem refill_of_le {t : ℚ} (ht : bucket.tokens.Represents t) (htc : t ≤ c)
    (hnow : now ≤ bucket.lastRefill) : (refill C rate bucket now).Represents t := by
  obtain ⟨e, he, he0, -⟩ := (now.subSat bucket.lastRefill).toSeconds_represents
  have hzero := he0 (by rw [Duration.nanos_subSat]; exact Nat.sub_eq_zero_of_le hnow)
  subst hzero
  have hsum := add_exact ht (mul_represents_zero he hrate) (by simpa using ht.representable)
  rw [add_zero] at hsum
  have := minNum_of_represents hsum hC
  rwa [min_eq_left htc] at this

/-- A full bucket stays full. -/
theorem refill_of_full (ht : bucket.tokens.Represents c) : (refill C rate bucket now).Represents c := by
  obtain ⟨e, he, -, -⟩ := (now.subSat bucket.lastRefill).toSeconds_represents
  rcases le_add ht (mul_nonneg he hrate) with hinf | ⟨w, hw, hcw⟩
  · rw [refill, hinf, minNum_inf hC]
    exact hC
  · have := minNum_of_represents hw hC
    rwa [min_eq_right hcw] at this

end Refill

/-- Below `2 ^ 53` tokens, a check takes exactly one whole token when the refilled bucket
holds one, and says how many whole tokens are left. -/
theorem take_of_refill (p : Policy) {ρ : ℚ} (hR : (refill C rate bucket now).Represents ρ) (hρ : ρ ≤ 2 ^ 53) :
    (take p C rate bucket now).1.lastRefill = now ∧
      (take p C rate bucket now).1.tokens.Represents (if 1 ≤ ρ then ρ - 1 else ρ) ∧
      (take p C rate bucket now).2.allowed = decide (1 ≤ ρ) ∧
      (take p C rate bucket now).2.remaining = if 1 ≤ ρ then ⌊ρ - 1⌋₊ else 0 := by
  have hle := le_iff_of_represents one_represents hR
  rw [take_fst, take_allowed, take_remaining]
  by_cases h1 : 1 ≤ ρ
  · have hsub := sub_one_represents hR h1 hρ
    have hfloor : ⌊ρ - 1⌋₊ < 2 ^ 64 - 1 := by
      have : ⌊ρ - 1⌋₊ ≤ ⌊(2 : ℚ) ^ 53⌋₊ := Nat.floor_le_floor (by linarith)
      rw [show ⌊(2 : ℚ) ^ 53⌋₊ = 2 ^ 53 by exact_mod_cast Nat.floor_natCast (2 ^ 53)] at this
      omega
    have hrem := toNatClamped_of_represents (floor_represents hsub)
    rw [Nat.floor_natCast, min_eq_left hfloor.le] at hrem
    simp [hle.mpr h1, h1, hsub, hrem]
  · have hnot : Binary64.le 1 (refill C rate bucket now) = false := by
      rw [← Bool.not_eq_true, hle]
      exact h1
    simp [hnot, h1, hR]

/-! ## A key's checks at one instant -/

/-- The number of admitting decisions taken at the clock reading `t`. -/
def admittedAt (t : Duration) (ts : List Duration) (ds : List Decision) : ℕ :=
  ((ts.zip ds).filter fun x => decide (x.1 = t) && x.2.allowed).length

theorem admittedAt_cons (t u : Duration) (ts : List Duration) (d : Decision) (ds : List Decision) :
    admittedAt t (u :: ts) (d :: ds) = (if u = t ∧ d.allowed then 1 else 0) + admittedAt t ts ds := by
  by_cases h : u = t ∧ d.allowed = true
  · simp [admittedAt, h, Nat.add_comm]
  · have h' : (decide (u = t) && d.allowed) = false := by simpa using h
    simp [admittedAt, h', h]

theorem admittedAt_eq_zero {t : Duration} {ts : List Duration} (ds : List Decision)
    (h : ∀ u ∈ ts, u ≠ t) : admittedAt t ts ds = 0 := by
  refine List.length_eq_zero_iff.mpr (List.filter_eq_nil_iff.mpr fun x hx => ?_)
  have hne := h x.1 (List.of_mem_zip hx).1
  simp [hne]

/-- What the checks of a slot at `t` can still admit: the whole tokens it holds when it was
last touched and refilled at `t` itself, else the whole tokens of a full bucket. -/
def instantBound (c : ℚ) (t : Duration) : Option (Slot Bucket) → ℕ
  | some s => if s.touched = t ∧ t ≤ s.state.lastRefill then ⌊s.state.tokens.toRat⌋₊ else ⌊c⌋₊
  | none => ⌊c⌋₊

/-- Taking a token when there is one, and none otherwise, never admits more than the whole
tokens there were. -/
theorem floor_step (ρ : ℚ) :
    (if 1 ≤ ρ then 1 else 0) + ⌊if 1 ≤ ρ then ρ - 1 else ρ⌋₊ = ⌊ρ⌋₊ := by
  split
  · rename_i h1
    rw [Nat.floor_sub_one]
    have : 1 ≤ ⌊ρ⌋₊ := Nat.le_floor (by simpa using h1)
    omega
  · simp

variable (p : Policy) (C rate : Binary64) (hold : Duration)

/-- At any single clock reading, the checks of a bucket admit at most what its slot can
still admit there. The induction runs over the key's checks; a check at another reading
only leaves a slot last refilled then. -/
theorem admittedAt_run_le {c r : ℚ} (hC : C.Represents c) (hrate : rate.Represents r)
    (hc : c ≤ 2 ^ 53) (t : Duration) :
    ∀ (slot? : Option (Slot Bucket)) (ts : List Duration),
      (∀ s ∈ slot?, Within c s.state ∧ ∀ u ∈ ts, s.touched ≤ u) → ts.Pairwise (· ≤ ·) →
      admittedAt t ts (Slot.run hold (fun now => ⟨C, now⟩) (take p C rate) slot? ts) ≤
        instantBound c t slot?
  | _, [], _, _ => Nat.zero_le _
  | slot?, t₀ :: ts, hslot, hsorted => by
      obtain ⟨hts, hsorted'⟩ := List.pairwise_cons.mp hsorted
      have hvisit := Slot.visit_of_le hold (fun now => ⟨C, now⟩) (take p C rate)
        (fun s hs => (hslot s hs).2 t₀ List.mem_cons_self)
      -- the bucket found at `t₀`, refilled there
      have hbase : Within c (slot?.getD ⟨⟨C, t₀⟩, t₀, t₀⟩).state := by
        cases slot? with
        | none => exact ⟨c, hC, le_rfl⟩
        | some s => exact (hslot s rfl).1
      obtain ⟨ρ, hρ, hρc⟩ := refill_within hC hrate hbase t₀
      obtain ⟨hlast, htok, hallow, -⟩ := take_of_refill p hρ (hρc.trans hc)
      have hρ'c : (if 1 ≤ ρ then ρ - 1 else ρ) ≤ c := by split <;> linarith
      -- the slot the check leaves, touched and refilled at `t₀`
      have ih := admittedAt_run_le hC hrate hc t
        (some { (slot?.getD ⟨⟨C, t₀⟩, t₀, t₀⟩).touch t₀ hold with
          state := (take p C rate (slot?.getD ⟨⟨C, t₀⟩, t₀, t₀⟩).state t₀).1 }) ts
        (fun s hs => by
          cases hs
          exact ⟨⟨_, htok, hρ'c⟩, fun u hu => by simpa [Slot.touch] using hts u hu⟩) hsorted'
      simp only [instantBound, Slot.touch, hlast, htok.toRat_eq] at ih
      simp only [Slot.run, hvisit, admittedAt_cons, hallow, decide_eq_true_eq]
      by_cases ht : t₀ = t
      · subst ht
        simp only [le_refl, and_self, if_true] at ih
        -- at `t₀` the slot admits at most the whole tokens of the refilled bucket
        calc _ ≤ (if 1 ≤ ρ then 1 else 0) + ⌊if 1 ≤ ρ then ρ - 1 else ρ⌋₊ := by
              simp only [true_and]
              exact Nat.add_le_add_left ih _
          _ = ⌊ρ⌋₊ := floor_step ρ
          _ ≤ instantBound c t₀ slot? := ?_
        cases slot? with
        | none => exact Nat.floor_le_floor hρc
        | some s =>
            simp only [instantBound]
            split
            · rename_i hsame
              obtain ⟨τ, hτ, hτc⟩ := (hslot s rfl).1
              have hρτ := hρ.unique (refill_of_le hC hrate hτ hτc hsame.2)
              rw [hρτ, hτ.toRat_eq]
            · exact Nat.floor_le_floor hρc
      · simp only [ht, false_and, if_false, zero_add] at ih ⊢
        cases slot? with
        | none => exact ih
        | some s =>
            simp only [instantBound]
            split
            · -- a slot already at `t` sees no later check at `t`
              rename_i hsame
              have hlt : t < t₀ := lt_of_le_of_ne (hsame.1 ▸ (hslot s rfl).2 t₀ List.mem_cons_self)
                (Ne.symm ht)
              rw [admittedAt_eq_zero _ fun u hu => ne_of_gt (lt_of_lt_of_le hlt (hts u hu))]
              exact Nat.zero_le _
            · exact ih

/-- The decisions of a burst of `n` checks at one instant, as whether each admits and how
many requests it leaves, on a bucket whose refill there holds `ρ` tokens: the first `⌊ρ⌋`
admit, the `j`-th leaving `⌊ρ⌋ - j`, and the rest refuse. -/
def burst (ρ : ℚ) (n : ℕ) : List (Bool × ℕ) :=
  (List.range n).map fun i => if i < ⌊ρ⌋₊ then (true, ⌊ρ⌋₊ - (i + 1)) else (false, 0)

theorem burst_succ (ρ : ℚ) (n : ℕ) :
    burst ρ (n + 1) = (decide (1 ≤ ρ), if 1 ≤ ρ then ⌊ρ - 1⌋₊ else 0) ::
      burst (if 1 ≤ ρ then ρ - 1 else ρ) n := by
  simp only [burst, List.range_succ_eq_map, List.map_cons, List.map_map]
  by_cases h1 : 1 ≤ ρ
  · have hf : 1 ≤ ⌊ρ⌋₊ := Nat.le_floor (by simpa using h1)
    simp only [h1, if_true, decide_true, Nat.floor_sub_one]
    refine List.cons_eq_cons.mpr ⟨by simp [h1], List.map_congr_left fun i _ => ?_⟩
    simp only [Function.comp_apply]
    split_ifs <;> simp <;> omega
  · have hf : ⌊ρ⌋₊ = 0 := Nat.floor_eq_zero.mpr (lt_of_not_ge h1)
    simp [h1, hf, Function.comp_def, List.map_const']

/-- A burst at one instant, on a bucket whose refill there holds `ρ` tokens, decides as
`burst ρ`: each check after the first finds the bucket refilled at that instant already. -/
theorem run_burst {c r : ℚ} (hC : C.Represents c) (hrate : rate.Represents r) (hc : c ≤ 2 ^ 53)
    (t : Duration) :
    ∀ (n : ℕ) (slot? : Option (Slot Bucket)) (ρ : ℚ), (∀ s ∈ slot?, s.touched ≤ t) →
      (refill C rate (slot?.getD ⟨⟨C, t⟩, t, t⟩).state t).Represents ρ → ρ ≤ c →
      (Slot.run hold (fun now => ⟨C, now⟩) (take p C rate) slot? (List.replicate n t)).map
        (fun d => (d.allowed, d.remaining)) = burst ρ n
  | 0, _, _, _, _, _ => rfl
  | n + 1, slot?, ρ, htouch, hρ, hρc => by
      have hvisit := Slot.visit_of_le hold (fun now => ⟨C, now⟩) (take p C rate) htouch
      obtain ⟨hlast, htok, hallow, hrem⟩ := take_of_refill p hρ (hρc.trans hc)
      have hρ'c : (if 1 ≤ ρ then ρ - 1 else ρ) ≤ c := by split <;> linarith
      have ih := run_burst hC hrate hc t n
        (some { (slot?.getD ⟨⟨C, t⟩, t, t⟩).touch t hold with
          state := (take p C rate (slot?.getD ⟨⟨C, t⟩, t, t⟩).state t).1 })
        _ (fun s hs => by cases hs; simp [Slot.touch])
        (refill_of_le hC hrate htok hρ'c (by rw [Option.getD_some, hlast]))
        hρ'c
      rw [List.replicate_succ, burst_succ, ← hallow, ← hrem, ← ih]
      simp only [Slot.run, hvisit, List.map_cons]

theorem instantBound_le {c : ℚ} (t : Duration) {slot? : Option (Slot Bucket)}
    (h : ∀ s ∈ slot?, Within c s.state) : instantBound c t slot? ≤ ⌊c⌋₊ := by
  cases slot? with
  | none => exact le_rfl
  | some s =>
      obtain ⟨τ, hτ, hτc⟩ := h s rfl
      simp only [instantBound]
      split
      · rw [hτ.toRat_eq]
        exact Nat.floor_le_floor hτc
      · exact le_rfl

/-- Counting the admissions at one reading among a key's checks counts them among the
decisions of its slot. -/
theorem filter_admits_eq (t : Duration) (ts : List Duration) (ds : List Decision) :
    ((ts.zip (ds.map Reply.decision)).filter fun x => decide (x.1 = t) && x.2.admits).length =
      admittedAt t ts ds := by
  rw [List.zip_map_right, List.filter_map, List.length_map]
  rfl

end TokenBucket

/-- Checks of a token-bucket key that share one clock reading: while the bucket's capacity
`C` is at most `2 ^ 53`, at most `⌊C⌋` of them are admitted at any reading, and when all the
key's checks share one reading, starting from a fresh or full bucket, the first `⌊C⌋`
admit, the `j`-th leaving `⌊C⌋ - j` requests, and the rest are refused. -/
theorem tokenBucket_instant_admissions {clock : Clock} {b : TokenBucket} {key : String}
    {p : Policy} {cs : List Command} {c : ℚ} (hp : p.validate = .ok ()) (hL : p.limit < 2 ^ 64)
    (hC : (b.capacity p).Represents c) (hc : c ≤ 2 ^ 53) (hu : b.buckets.Unique key)
    (hk : ∀ slot ∈ b.buckets.slot? key, slot.state.tokens = b.capacity p ∧ slot.touched ≤ clock.now)
    (hrun : Session.Spares key p ⟨clock, .tokenBucket b⟩ cs) :
    let checks := Session.keyChecks key ⟨clock, .tokenBucket b⟩ cs
    (∀ t, (checks.filter fun x => decide (x.1 = t) && x.2.admits).length ≤ ⌊c⌋₊) ∧
      ∀ t, (∀ x ∈ checks, x.1 = t) → ∃ ds : List Decision, checks.map (·.2) = ds.map .decision ∧
        ds.map (fun d => (d.allowed, d.remaining)) = TokenBucket.burst c checks.length := by
  intro checks
  obtain ⟨r, hrate⟩ := Policy.rate_represents hp hL
  have hsorted := Session.keyChecks_sorted key ⟨clock, .tokenBucket b⟩ cs
  -- the key's checks, as its clock readings and the decisions of its slot there
  have hslots : checks.map (·.2) = (Slot.run ((TokenBucket.keyed b.multiplier).hold p)
      (fun now => ⟨b.capacity p, now⟩) (TokenBucket.take p (b.capacity p) p.rate)
      (b.buckets.slot? key) (checks.map (·.1))).map .decision :=
    ((TokenBucket.keyed b.multiplier).keyChecks_eq hp _ b.buckets cs rfl hu hrun).1
  obtain ⟨ds, hds⟩ : ∃ ds, Slot.run ((TokenBucket.keyed b.multiplier).hold p)
      (fun now => ⟨b.capacity p, now⟩) (TokenBucket.take p (b.capacity p) p.rate)
      (b.buckets.slot? key) (checks.map (·.1)) = ds := ⟨_, rfl⟩
  rw [hds] at hslots
  have hchecks : checks = (checks.map (·.1)).zip (ds.map .decision) := by
    rw [← hslots, ← List.unzip_fst, ← List.unzip_snd, List.zip_unzip]
  have hafter : ∀ slot ∈ b.buckets.slot? key, ∀ u ∈ checks.map (·.1), slot.touched ≤ u := by
    intro slot hslot u hu'
    obtain ⟨x, hx, rfl⟩ := List.mem_map.mp hu'
    exact (hk slot hslot).2.trans (Session.now_le_of_mem_keyChecks _ cs x hx)
  have hwithin : ∀ slot ∈ b.buckets.slot? key, TokenBucket.Within c slot.state := fun slot hslot =>
    ⟨c, (hk slot hslot).1 ▸ hC, le_rfl⟩
  refine ⟨fun t => ?_, fun t hall => ⟨ds, hslots, ?_⟩⟩
  · rw [hchecks, TokenBucket.filter_admits_eq, ← hds]
    exact (TokenBucket.admittedAt_run_le p _ _ _ hC hrate hc t _ _
      (fun s hs => ⟨hwithin s hs, hafter s hs⟩) hsorted).trans
      (TokenBucket.instantBound_le t hwithin)
  · -- all readings are `t`, and the first check finds a bucket that refills to full there
    have hrep : checks.map (·.1) = List.replicate checks.length t := by
      rw [List.eq_replicate_iff, List.length_map]
      exact ⟨rfl, fun u hu' => by
        obtain ⟨x, hx, rfl⟩ := List.mem_map.mp hu'
        exact hall x hx⟩
    rcases List.eq_nil_or_concat checks with hnil | ⟨rest, x, hx⟩
    · rw [← hds, hnil]
      rfl
    have hxmem : x ∈ checks := by rw [hx]; simp
    have htouch : ∀ s ∈ b.buckets.slot? key, s.touched ≤ t := fun s hs =>
      hall x hxmem ▸ hafter s hs x.1 (List.mem_map.mpr ⟨x, hxmem, rfl⟩)
    have hfirst : (TokenBucket.refill (b.capacity p) p.rate
        ((b.buckets.slot? key).getD ⟨⟨b.capacity p, t⟩, t, t⟩).state t).Represents c := by
      cases hs : b.buckets.slot? key with
      | none => exact TokenBucket.refill_of_le hC hrate hC le_rfl le_rfl
      | some s => exact TokenBucket.refill_of_full hC hrate ((hk s hs).1 ▸ hC)
    rw [← hds, hrep]
    exact TokenBucket.run_burst p _ _ _ hC hrate hc t _ _ c htouch hfirst le_rfl

/-- Seven checks at one reading against a fresh standard bucket of capacity `6` (limit `3`,
multiplier `2`). -/
theorem tokenBucket_instant_admissions_burst :
    let p := Policy.ofSecs 3 60
    let s : Session := ⟨⟨Duration.ofSecs 1000⟩, .tokenBucket TokenBucket.standard⟩
    let cs := List.replicate 7 (Command.check "client" p)
    let checks := Session.keyChecks "client" s cs
    (TokenBucket.standard.capacity p).Represents 6 ∧ Session.Spares "client" p s cs ∧
      (∀ t, (checks.filter fun x => decide (x.1 = t) && x.2.admits).length ≤ ⌊(6 : ℚ)⌋₊) ∧
      ∀ t, (∀ x ∈ checks, x.1 = t) → ∃ ds : List Decision, checks.map (·.2) = ds.map .decision ∧
        ds.map (fun d => (d.allowed, d.remaining)) = TokenBucket.burst 6 checks.length := by
  have hp : (Policy.ofSecs 3 60).validate = .ok () := rfl
  have hC : (TokenBucket.standard.capacity (Policy.ofSecs 3 60)).Represents 6 :=
    ⟨6755399441055744, -50, by unfold Fits; decide, by decide +kernel, by norm_num⟩
  have hu : TokenBucket.standard.buckets.Unique "client" := KeyStore.Unique.of_slot?_eq_none rfl
  have hk : ∀ slot ∈ TokenBucket.standard.buckets.slot? "client",
      slot.state.tokens = TokenBucket.standard.capacity (Policy.ofSecs 3 60) ∧
        slot.touched ≤ Duration.ofSecs 1000 := fun _ h => nomatch h
  have hrun : Session.Spares "client" (Policy.ofSecs 3 60)
      ⟨⟨Duration.ofSecs 1000⟩, .tokenBucket TokenBucket.standard⟩
      (List.replicate 7 (Command.check "client" (Policy.ofSecs 3 60))) :=
    ⟨rfl, rfl, rfl, rfl, rfl, rfl, rfl, trivial⟩
  exact ⟨hC, hrun, tokenBucket_instant_admissions hp (by decide) hC (by norm_num) hu hk hrun⟩

/-- The bound `⌊C + (b - a) · ρ⌋` over the reals fails both ways. With capacity `1` and rate
`ρ = fl(1/3)` per second, `3 · ρ` is just below one, yet the refill after three seconds
rounds up to a whole token, so two checks three seconds apart are both admitted. And with
capacity `2 ^ 54` taking a token is not exact: the first check leaves `2 ^ 54` requests,
not `2 ^ 54 - 1`. -/
theorem tokenBucket_rounding_exceeds_exact_bound :
    let p := Policy.ofSecs 1 3
    let b : TokenBucket := ⟨1, .empty⟩
    let q : Policy := ⟨2 ^ 53, Duration.ofSecs 1⟩
    ((do
      let (b₁, d₁) ← b.check Duration.zero "k" p
      let (_, d₂) ← b₁.check (Duration.ofSecs 3) "k" p
      pure [d₁.allowed, d₂.allowed]).toOption = some [true, true] ∧
      (b.capacity p).toRat + 3 * p.rate.toRat < 2) ∧
    (TokenBucket.standard.capacity q).toRat = 2 ^ 54 ∧
      (TokenBucket.standard.check Duration.zero "k" q).toOption.map (·.2.remaining) = some (2 ^ 54) := by
  decide +kernel

end Throttle
