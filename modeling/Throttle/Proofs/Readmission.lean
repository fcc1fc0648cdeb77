import Mathlib
import Throttle.Proofs.BucketState

/-! # A bucket admits again after one token's time

A refused check advertises the wait `(1 - tokens) / rate`, converted to the nearest
nanosecond. That wait can fall short: the conversion may round down, and the refill
`tokens + elapsed × rate` is rounded in binary64, so a check after exactly the advertised wait
may find just under one token (`tokenBucket_retry_falls_short`).

What does hold is a bound on the wait in whole seconds. The time a bucket needs for one
token, `1 / rate`, rounded up to whole seconds, is enough: every rounding in the refill is to
nearest, one is a binary64 number, so once the exact sum reaches one the computed one does
too. A check of a key at least that long after its previous check is admitted, as long as the
capacity holds a token at all (`tokenBucket_waiting_one_token_admits`).
-/

namespace Throttle

namespace Binary64

/-- One or more: a finite number from one up, or the positive infinity. -/
def AtLeastOne (x : Binary64) : Prop := x = inf false ∨ ∃ w, x.Represents w ∧ 1 ≤ w

variable {x y C : Binary64}

theorem AtLeastOne.le_one (h : x.AtLeastOne) : le 1 x = true := by
  rcases h with rfl | ⟨w, hw, h1⟩
  · exact le_inf (by simp [one_represents.nonneg'.ne_nan])
  · exact (le_iff_of_represents one_represents hw).mpr h1

theorem AtLeastOne.of_le (hx : x.Nonneg) (h : le 1 x = true) : x.AtLeastOne := by
  rcases hx with rfl | ⟨w, hw⟩
  · exact .inl rfl
  · exact .inr ⟨w, hw, (le_iff_of_represents one_represents hw).mp h⟩

theorem AtLeastOne.nonneg (h : x.AtLeastOne) : x.Nonneg := by
  rcases h with rfl | ⟨w, hw, -⟩
  · exact .inl rfl
  · exact hw.nonneg'

/-- A value rounded from an exact one of one or more is one or more: one is a binary64
number, and rounding keeps order. -/
theorem AtLeastOne.of_rounds {q : ℚ} (h : x.Rounds q) (hq : 1 ≤ q) : x.AtLeastOne := by
  rcases h.lower one_represents.representable hq with hinf | ⟨w, hw, h1⟩
  · exact .inl hinf
  · exact .inr ⟨w, hw, h1⟩

theorem add_atLeastOne (hx : x.Nonneg) (hy : y.AtLeastOne) : (x + y).AtLeastOne := by
  rcases hx with rfl | ⟨u, hu⟩
  · rcases hy with rfl | ⟨w, ⟨m, e, -, rfl, -⟩, -⟩ <;> exact .inl rfl
  rcases hy with rfl | ⟨w, hw, h1⟩
  · obtain ⟨m, e, -, rfl, -⟩ := hu
    exact .inl rfl
  · exact .of_rounds (add_rounds hu hw) (by linarith [hu.nonneg])

theorem minNum_atLeastOne (hx : x.AtLeastOne) (hC : C.AtLeastOne) : (minNum x C).AtLeastOne := by
  rcases hx with rfl | ⟨u, hu, hu1⟩
  · rwa [minNum_inf_left hC.nonneg]
  rcases hC with rfl | ⟨c, hc, hc1⟩
  · rw [minNum_inf_right hu.nonneg'.ne_nan]
    exact .inr ⟨u, hu, hu1⟩
  · exact .inr ⟨min u c, minNum_of_represents hu hc, le_min hu1 hc1⟩

end Binary64

/-- A duration of at least `n` whole seconds reads as at least `n` seconds, for `n` below
`2 ^ 53`. -/
theorem Duration.le_toSeconds {d : Duration} {n : ℕ} (hn : n < 2 ^ 53) (h : n ≤ d.secs) {e : ℚ}
    (he : d.toSeconds.Represents e) : (n : ℚ) ≤ e := by
  rcases lt_or_ge d.secs (2 ^ 53) with hsmall | hlarge
  · -- whole seconds are exact, and the fraction only adds
    obtain ⟨q, hq, -⟩ := d.fraction_lt_one
    have hsum := Binary64.add_rounds (Binary64.ofNat_represents hsmall) hq
    rw [Duration.toSeconds] at he
    refine hsum.ge he (Binary64.representable_natCast hn) ?_
    have : (n : ℚ) ≤ d.secs := by exact_mod_cast h
    linarith [hq.nonneg]
  · obtain ⟨s, -, h53, hs⟩ := d.toSeconds_of_large hlarge
    rw [he.unique hs]
    have : (n : ℚ) < 2 ^ 53 := by exact_mod_cast hn
    linarith

namespace TokenBucket

variable {C rate : Binary64} {bucket : Bucket} {now : Duration}

/-- A bucket refilled for at least the whole seconds that one token takes holds a token,
when its capacity does. -/
theorem refill_atLeastOne (hT : bucket.tokens.Nonneg) (hC : C.AtLeastOne) {ρ : ℚ}
    (hrate : rate.Represents ρ) {n : ℕ} (hn : n < 2 ^ 53) (hnρ : 1 ≤ n * ρ)
    (hwait : n ≤ (now.subSat bucket.lastRefill).secs) : (refill C rate bucket now).AtLeastOne := by
  obtain ⟨e, he, -, -⟩ := (now.subSat bucket.lastRefill).toSeconds_represents
  have hne : (n : ℚ) ≤ e := Duration.le_toSeconds hn hwait he
  have hprod : 1 ≤ e * ρ := le_trans hnρ (mul_le_mul_of_nonneg_right hne hrate.nonneg)
  have hgain := Binary64.AtLeastOne.of_rounds (Binary64.mul_rounds he hrate) hprod
  exact Binary64.minNum_atLeastOne (Binary64.add_atLeastOne hT hgain) hC

end TokenBucket

namespace Slot

variable {σ α : Type} (hold : Duration) (init : Duration → σ) (step : σ → Duration → σ × α)

theorem run_append : ∀ (slot? : Option (Slot σ)) (xs ys : List Duration),
    run hold init step slot? (xs ++ ys) =
      run hold init step slot? xs ++ run hold init step (final hold init step slot? xs) ys
  | _, [], _ => rfl
  | slot?, t :: xs, ys => by
      simp [run, final, run_append _ xs ys]

theorem final_append : ∀ (slot? : Option (Slot σ)) (xs ys : List Duration),
    final hold init step slot? (xs ++ ys) = final hold init step (final hold init step slot? xs) ys
  | _, [], _ => rfl
  | _, _ :: xs, ys => final_append _ xs ys

@[simp] theorem length_run : ∀ (slot? : Option (Slot σ)) (ts : List Duration),
    (run hold init step slot? ts).length = ts.length
  | _, [] => rfl
  | slot?, t :: ts => by simp [run, length_run _ ts]

end Slot

namespace TokenBucket

variable {m : Binary64} {p : Policy}

/-- A visit of a key's bucket, kept with zero or more tokens or new, leaves zero or more
tokens, refilled at the instant the slot is touched. -/
theorem visit_bucket (hm : (!m.isFinite || m.le 0) = false) (hp : p.validate = .ok ())
    {slot? : Option (Slot Bucket)} (h : ∀ x ∈ slot?, x.state.tokens.Nonneg) (t : Duration) :
    (Slot.visit slot? t ((keyed m).hold p) ((keyed m).init p) ((keyed m).step p)).1.state.tokens.Nonneg ∧
      (Slot.visit slot? t ((keyed m).hold p) ((keyed m).init p) ((keyed m).step p)).1.state.lastRefill =
        (Slot.visit slot? t ((keyed m).hold p) ((keyed m).init p) ((keyed m).step p)).1.touched := by
  have hC := capacity_nonneg hm .empty p
  have hbase : (slot?.getD ⟨(keyed m).init p t, t, t⟩).state.tokens.Nonneg := by
    cases slot? with
    | none => exact hC
    | some x => exact h x rfl
  obtain ⟨hfill, hrefill⟩ := fill_take (p := p) hbase hC (Policy.rate_nonneg hp)
    (max t (slot?.getD ⟨(keyed m).init p t, t, t⟩).touched)
  exact ⟨hfill.1, hrefill⟩

theorem final_tokens_nonneg (hm : (!m.isFinite || m.le 0) = false) (hp : p.validate = .ok ()) :
    ∀ (slot? : Option (Slot Bucket)) (ts : List Duration), (∀ x ∈ slot?, x.state.tokens.Nonneg) →
      ∀ x ∈ Slot.final ((keyed m).hold p) ((keyed m).init p) ((keyed m).step p) slot? ts,
        x.state.tokens.Nonneg
  | _, [], h => h
  | slot?, t :: ts, h =>
      final_tokens_nonneg hm hp _ ts fun x hx => by
        rw [Option.mem_def, Option.some.injEq] at hx
        exact hx ▸ (visit_bucket hm hp h t).1

end TokenBucket

/-- A check of a token-bucket key at least the whole seconds that one token takes after the
key's previous check is admitted, when the capacity holds a token: for a fresh key of a
limiter with an accepted multiplier, in a run that spares the key. -/
theorem tokenBucket_waiting_one_token_admits {clock : Clock} {m : Binary64} {st : KeyStore Bucket}
    {key : String} {p : Policy} {cs : List Command} {before after : List (Duration × Reply)}
    {t u : Duration} {x y : Reply} {ρ : ℚ} {n : ℕ}
    (hm : (!m.isFinite || m.le 0) = false) (hp : p.validate = .ok ()) (hk : st.slot? key = none)
    (hrun : Session.Spares key p ⟨clock, .tokenBucket ⟨m, st⟩⟩ cs)
    (hsplit : Session.keyChecks key ⟨clock, .tokenBucket ⟨m, st⟩⟩ cs = before ++ (t, x) :: (u, y) :: after)
    (hC : Binary64.le 1 (TokenBucket.capacity ⟨m, st⟩ p) = true) (hrate : p.rate.Represents ρ)
    (hn : n < 2 ^ 53) (hnρ : 1 ≤ n * ρ) (hwait : n ≤ (u.subSat t).secs) : y.admits = true := by
  let D := TokenBucket.keyed m
  obtain ⟨hreplies, -⟩ := D.keyChecks_eq hp ⟨clock, .tokenBucket ⟨m, st⟩⟩ st cs rfl
    (KeyStore.Unique.of_slot?_eq_none hk) hrun
  have hsorted := Session.keyChecks_sorted key ⟨clock, .tokenBucket ⟨m, st⟩⟩ cs
  rw [hsplit, hk] at hreplies
  rw [hsplit] at hsorted
  simp only [List.map_append, List.map_cons] at hreplies hsorted
  -- the visits before the check at `t` answer the checks before it
  rw [Slot.run_append, List.map_append] at hreplies
  obtain ⟨-, htail⟩ := List.append_inj hreplies (by simp)
  simp only [Slot.run, List.map_cons, List.cons.injEq] at htail
  obtain ⟨-, hy, -⟩ := htail
  -- the visit at `t` leaves the bucket touched and refilled at `t`
  set S₀ := Slot.final (D.hold p) (D.init p) (D.step p) none (before.map (·.1))
  set V := (Slot.visit S₀ t (D.hold p) (D.init p) (D.step p)).1
  have htouched : V.touched = t := by
    have hlast : (Slot.final (D.hold p) (D.init p) (D.step p) none (before.map (·.1) ++ [t])).map
        (·.touched) = some t :=
      Slot.final_touched none _ t (fun _ h => by cases h) (hsorted.sublist (by simp)) (by simp)
    rw [Slot.final_append] at hlast
    simpa [Slot.final] using hlast
  have htu : t ≤ u := by
    have := (List.pairwise_append.mp hsorted).2.1
    simp only [List.pairwise_cons] at this
    exact this.1 u List.mem_cons_self
  obtain ⟨hV, hrefill⟩ := TokenBucket.visit_bucket hm hp
    (TokenBucket.final_tokens_nonneg hm hp none _ fun _ h => by cases h) t
  rw [hy, Slot.visit_of_le _ _ _ (fun x hx => by
    rw [Option.mem_def, Option.some.injEq] at hx
    exact hx ▸ htouched.le.trans htu)]
  show (TokenBucket.take p (TokenBucket.capacity ⟨m, .empty⟩ p) p.rate V.state u).2.allowed = true
  rw [TokenBucket.take_allowed]
  -- one token's time, in whole seconds, has passed since the refill at `t`
  refine (TokenBucket.refill_atLeastOne hV (.of_le (TokenBucket.capacity_nonneg hm .empty p) hC) hrate hn hnρ
    ?_).le_one
  rwa [hrefill, htouched]

/-- Under one request per 49 s from a new bucket of two: three checks at 0 s, the third refused
with a wait of 49 s, and a check at 50 s, the whole seconds one token takes, admitted. -/
theorem tokenBucket_waiting_one_token_admits_after_refusal :
    let p := Policy.ofSecs 1 49
    let s : Session := ⟨⟨Duration.ofSecs 0⟩, .tokenBucket TokenBucket.standard⟩
    let cs := [Command.check "k" p, .check "k" p, .check "k" p, .advance (Duration.ofSecs 50),
      .check "k" p]
    p.rate.Represents (5882252574524729 * 2 ^ (-58 : ℤ)) ∧
      1 ≤ ((50 : ℕ) : ℚ) * (5882252574524729 * 2 ^ (-58 : ℤ)) ∧
      ∃ before y, s.keyChecks "k" cs = before ++
        (Duration.ofSecs 0, .decision (.deny TokenBucket.name 1 (Duration.ofSecs 98) (Duration.ofSecs 49))) ::
          (Duration.ofSecs 50, y) :: [] ∧ y.admits = true := by
  intro p s cs
  let D := TokenBucket.keyed 2
  have hm : (!(2 : Binary64).isFinite || (2 : Binary64).le 0) = false := by decide +kernel
  have hp : p.validate = .ok () := rfl
  have hk : TokenBucket.standard.buckets.slot? "k" = none := rfl
  have hrate : p.rate.Represents (5882252574524729 * 2 ^ (-58 : ℤ)) :=
    ⟨5882252574524729, -58, ⟨by norm_num, by decide, by decide⟩, by decide +kernel, by norm_num⟩
  have hnρ : 1 ≤ ((50 : ℕ) : ℚ) * (5882252574524729 * 2 ^ (-58 : ℤ)) := by norm_num
  have hsteady : Command.Steady (fun _ => p) cs := by simp [cs, Command.Steady, Command.forgets]
  have htimes : s.clock.checkTimes "k" cs =
      [Duration.ofSecs 0, Duration.ofSecs 0, Duration.ofSecs 0, Duration.ofSecs 50] := by
    decide +kernel
  have hslot : Slot.run (D.hold p) (D.init p) (D.step p) none
      [Duration.ofSecs 0, Duration.ofSecs 0, Duration.ofSecs 0, Duration.ofSecs 50] =
      [.allow TokenBucket.name 1 1 (Duration.ofSecs 49), .allow TokenBucket.name 1 0 (Duration.ofSecs 98),
        .deny TokenBucket.name 1 (Duration.ofSecs 98) (Duration.ofSecs 49),
        .allow TokenBucket.name 1 0 (Duration.ofSecs 147)] := by
    decide +kernel
  have hchecks : s.keyChecks "k" cs =
      [(Duration.ofSecs 0, .decision (.allow TokenBucket.name 1 1 (Duration.ofSecs 49))),
        (Duration.ofSecs 0, .decision (.allow TokenBucket.name 1 0 (Duration.ofSecs 98)))] ++
      (Duration.ofSecs 0, .decision (.deny TokenBucket.name 1 (Duration.ofSecs 98) (Duration.ofSecs 49))) ::
        (Duration.ofSecs 50, .decision (.allow TokenBucket.name 1 0 (Duration.ofSecs 147))) :: [] := by
    rw [D.keyChecks_fresh hp rfl hk hsteady, htimes, hslot]
    rfl
  have hwait : 50 ≤ ((Duration.ofSecs 50).subSat (Duration.ofSecs 0)).secs := by decide
  have hC : Binary64.le 1 (TokenBucket.capacity TokenBucket.standard p) = true := by decide +kernel
  exact ⟨hrate, hnρ, _, _, hchecks,
    tokenBucket_waiting_one_token_admits hm hp hk (D.spares (fun _ => p) "k" s _ cs rfl hsteady) hchecks hC
      hrate (by norm_num) hnρ hwait⟩

/-- The advertised wait falls short. Under one request per 49 s from a new bucket of two, the
third check at 0 s is refused with a wait of 49 s, and the check 49 s later is refused again,
now with a wait of nothing: `49 × (1 / 49)` in binary64 is just under one. -/
theorem tokenBucket_retry_falls_short :
    let p := Policy.ofSecs 1 49
    let s : Session := ⟨⟨Duration.ofSecs 0⟩, .tokenBucket TokenBucket.standard⟩
    let cs := [Command.check "k" p, .check "k" p, .check "k" p, .advance (Duration.ofSecs 49),
      .check "k" p]
    s.keyChecks "k" cs =
      [(Duration.ofSecs 0, .decision (.allow TokenBucket.name 1 1 (Duration.ofSecs 49))),
        (Duration.ofSecs 0, .decision (.allow TokenBucket.name 1 0 (Duration.ofSecs 98))),
        (Duration.ofSecs 0, .decision (.deny TokenBucket.name 1 (Duration.ofSecs 98) (Duration.ofSecs 49))),
        (Duration.ofSecs 49, .decision (.deny TokenBucket.name 1 (Duration.ofSecs 98) Duration.zero))] := by
  intro p s cs
  let D := TokenBucket.keyed 2
  have hp : p.validate = .ok () := rfl
  have hk : TokenBucket.standard.buckets.slot? "k" = none := rfl
  have hsteady : Command.Steady (fun _ => p) cs := by simp [cs, Command.Steady, Command.forgets]
  have htimes : s.clock.checkTimes "k" cs =
      [Duration.ofSecs 0, Duration.ofSecs 0, Duration.ofSecs 0, Duration.ofSecs 49] := by
    decide +kernel
  have hslot : Slot.run (D.hold p) (D.init p) (D.step p) none
      [Duration.ofSecs 0, Duration.ofSecs 0, Duration.ofSecs 0, Duration.ofSecs 49] =
      [.allow TokenBucket.name 1 1 (Duration.ofSecs 49), .allow TokenBucket.name 1 0 (Duration.ofSecs 98),
        .deny TokenBucket.name 1 (Duration.ofSecs 98) (Duration.ofSecs 49),
        .deny TokenBucket.name 1 (Duration.ofSecs 98) Duration.zero] := by
    decide +kernel
  rw [D.keyChecks_fresh hp rfl hk hsteady, htimes, hslot]
  rfl

end Throttle
