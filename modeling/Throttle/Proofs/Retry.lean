import Mathlib
import Throttle.Proofs.Counting

/-! # Waiting as a refusal says

A refused check says how long to wait. For the window disciplines the wait is exact
(`RetryExact`): every later check of the key before the wait is over is refused, and the first
one after it is admitted. The wait ends where the quota is whole again: one window after the
oldest admitted instant that still counts, for a log, and the end of the aligned window, for a
counter. This needs that instant to be below the largest duration; when it is not, the reset
saturates and the wait ends while the quota is still spent.

A refusal leaves the admitted instants as they were, so along the refusals that follow the
counting rule sees the same instants, and only the clock decides when it admits again
(`Rule.refusals_until`).
-/

namespace Throttle

/-- A refusal at `t` that asks to wait `r` is exact for the checks after it: those before
`t + r` are refused, and the first one at or after `t + r` is admitted. -/
def RetryExact (t r : Duration) (later : List (Duration × Reply)) : Prop :=
  (∀ x ∈ later, x.1.nanos < t.nanos + r.nanos → x.2.admits = false) ∧
    ∀ mid x rest, later = mid ++ x :: rest → (∀ y ∈ mid, y.1.nanos < t.nanos + r.nanos) →
      t.nanos + r.nanos ≤ x.1.nanos → x.2.admits = true

theorem Decision.allowed_eq_false_of_retryAfter {d : Decision} {r : Duration}
    (h : d.retryAfter? = some r) : d.allowed = false := by
  obtain ⟨v, _, _, _⟩ := d
  cases v <;> simp_all [Decision.retryAfter?, Decision.allowed]

/-- The admitted instants among checks, filtered, are as many as the admitted checks the
filter keeps. -/
theorem length_filter_admitted (xs : List (Duration × Reply)) (q : Duration → Bool) :
    (((xs.filter (·.2.admits)).map (·.1)).filter q).length =
      (xs.filter fun x => x.2.admits && q x.1).length := by
  simp [List.filter_map, List.filter_filter, Function.comp_def, Bool.and_comm]

/-- Checks in order, split at one of them: the admitted instants before it are in order and
not after it, and the checks after it are not before it. -/
theorem sorted_split {before after : List (Duration × Reply)} {t : Duration} {r : Reply}
    (h : ((before ++ (t, r) :: after).map (·.1)).Pairwise (· ≤ ·)) :
    ((before.filter (·.2.admits)).map (·.1)).Pairwise (· ≤ ·) ∧
      (∀ u ∈ (before.filter (·.2.admits)).map (·.1), u ≤ t) ∧ (∀ x ∈ after, t ≤ x.1) ∧
      (after.map (·.1)).Pairwise (· ≤ ·) := by
  rw [List.map_append, List.pairwise_append] at h
  obtain ⟨hbefore, hrest, hcross⟩ := h
  rw [List.map_cons, List.pairwise_cons] at hrest
  have hsub : ((before.filter (·.2.admits)).map (·.1)).Sublist (before.map (·.1)) :=
    List.filter_sublist.map _
  refine ⟨hbefore.sublist hsub, fun u hu => hcross u (hsub.subset hu) t List.mem_cons_self,
    fun x hx => hrest.1 x.1 (List.mem_map.mpr ⟨x, hx, rfl⟩), hrest.2⟩

/-! ## Sliding logs -/

namespace SlidingLog

/-- The instant, in nanoseconds, at which a refusal at `t` after the admitted instants `adm`
sees the quota whole again: one window after the oldest instant that still counts. -/
def exactReset (p : Policy) (adm : List Duration) (t : Duration) : Nat :=
  ((adm.filter (counts p.window t)).min?.getD t).nanos + p.window.nanos

variable {p : Policy} {adm : List Duration} {t : Duration}

/-- A refusal at `t`, with at most the limit of admitted instants counting there and their
window ending below the largest duration: the wait ends when the oldest of them stops
counting, every check before then is refused, and every check from then on admitted. -/
theorem refusal_spec (hL : 0 < p.limit) (hadm : adm.Pairwise (· ≤ ·))
    (hbound : (adm.filter (counts p.window t)).length ≤ p.limit)
    (hden : (verdict p adm t).allowed = false) (hT : exactReset p adm t < Duration.limit) :
    (∃ r, (verdict p adm t).retryAfter? = some r ∧ t.nanos + r.nanos = exactReset p adm t) ∧
      (∀ u, t ≤ u → u.nanos < exactReset p adm t → (verdict p adm u).allowed = false) ∧
      ∀ u, exactReset p adm t ≤ u.nanos → (verdict p adm u).allowed = true := by
  have hfull : p.limit ≤ (adm.filter (counts p.window t)).length := by
    by_contra hlt
    have : (verdict p adm t).allowed = true := verdict_allowed_iff.mpr (by omega)
    simp [hden] at this
  -- the instants that count at `t` are in order; the oldest, `o`, is the least of them
  obtain ⟨o, rest, hlive⟩ : ∃ o rest, adm.filter (counts p.window t) = o :: rest := by
    cases h : adm.filter (counts p.window t) with
    | nil => rw [h] at hfull; simp at hfull; omega
    | cons o rest => exact ⟨o, rest, rfl⟩
  have hsorted : (o :: rest).Pairwise (· ≤ ·) := hlive ▸ hadm.filter _
  have hmin : (adm.filter (counts p.window t)).min? = some o := by
    rw [min?_eq_head? (hlive ▸ hsorted), hlive, List.head?_cons]
  have ho : o ∈ adm ∧ counts p.window t o := by
    have : o ∈ adm.filter (counts p.window t) := hlive ▸ List.mem_cons_self
    simpa using this
  have hoT : exactReset p adm t = o.nanos + p.window.nanos := by
    rw [exactReset, hmin, Option.getD_some]
  have hto : t.nanos < o.nanos + p.window.nanos := by simpa [counts] using ho.2
  have hold : ∀ x ∈ adm, counts p.window t x → o ≤ x := by
    intro x hx hcx
    have : x ∈ o :: rest := hlive ▸ List.mem_filter.mpr ⟨hx, hcx⟩
    rcases List.mem_cons.mp this with rfl | hx'
    · exact le_rfl
    · exact (List.pairwise_cons.mp hsorted).1 x hx'
  refine ⟨?_, fun u htu huT => ?_, fun u huT => ?_⟩
  · -- the reset is one window after `o`, exactly, and the wait runs until then
    have hv : verdict p adm t = .deny name p.limit (o.addSat p.window)
        ((o.addSat p.window).subSat t) := by
      simp only [verdict, hmin, Option.getD_some, if_neg (not_lt.mpr hfull)]
    refine ⟨(o.addSat p.window).subSat t, by rw [hv]; rfl, ?_⟩
    rw [hoT] at hT ⊢
    rw [Duration.nanos_subSat, Duration.nanos_addSat]
    simp only [Nat.min_def]
    split <;> omega
  · -- before then every instant that counted at `t` still counts
    have hstill : ∀ x ∈ adm.filter (counts p.window t), counts p.window u x := by
      intro x hx
      obtain ⟨hx, hcx⟩ := List.mem_filter.mp hx
      have := hold x hx hcx
      rw [Duration.le_iff_nanos] at this
      simp only [counts, decide_eq_true_eq]
      omega
    rw [← Bool.not_eq_true, verdict_allowed_iff, not_lt]
    calc p.limit ≤ (adm.filter (counts p.window t)).length := hfull
      _ = ((adm.filter (counts p.window t)).filter (counts p.window u)).length := by
          rw [List.filter_eq_self.mpr hstill]
      _ ≤ (adm.filter (counts p.window u)).length := by
          rw [List.filter_filter]
          exact (List.monotone_filter_right _ fun x h => by simp_all).length_le
  · -- from then on `o` no longer counts, and nothing that counts is new
    rw [verdict_allowed_iff]
    have hsame : adm.filter (counts p.window u) =
        (adm.filter (counts p.window t)).filter (counts p.window u) := by
      rw [List.filter_filter]
      refine List.filter_congr fun x _ => ?_
      by_cases hcx : counts p.window u x
      · have : counts p.window t x := by
          simp only [counts, decide_eq_true_eq] at hcx ⊢
          omega
        simp [hcx, this]
      · simp [hcx]
    have hdrop : ((adm.filter (counts p.window t)).filter (counts p.window u)).length <
        (adm.filter (counts p.window t)).length := by
      refine List.length_filter_lt_length_iff_exists.mpr ⟨o, hlive ▸ List.mem_cons_self, ?_⟩
      simp only [counts, decide_eq_true_eq, not_lt]
      omega
    rw [hsame]
    omega

end SlidingLog

/-! ## Fixed windows -/

namespace FixedWindow

/-- The end of the aligned window of `t`, in nanoseconds: the instant a refusal at `t` sees
the quota whole again. -/
def exactReset (p : Policy) (t : Duration) : Nat := alignedStart p.window t + p.window.nanos

variable {p : Policy} {adm : List Duration} {t : Duration}

/-- A refusal at `t`, whose window ends below the largest duration: the wait ends with the
window, every check before then is refused, and every check from then on admitted. -/
theorem refusal_spec (hw : 0 < p.window.nanos) (hL : 0 < p.limit) (hle : ∀ u ∈ adm, u ≤ t)
    (hden : (verdict p adm t).allowed = false) (hT : exactReset p t < Duration.limit) :
    (∃ r, (verdict p adm t).retryAfter? = some r ∧ t.nanos + r.nanos = exactReset p t) ∧
      (∀ u, t ≤ u → u.nanos < exactReset p t → (verdict p adm u).allowed = false) ∧
      ∀ u, exactReset p t ≤ u.nanos → (verdict p adm u).allowed = true := by
  have hfull : p.limit ≤
      (adm.filter fun u => alignedStart p.window u = alignedStart p.window t).length := by
    by_contra hlt
    simp [verdict, not_le.mp hlt] at hden
  have hend : t.nanos < exactReset p t := Nat.lt_div_mul_add hw
  refine ⟨?_, fun u htu huT => ?_, fun u huT => ?_⟩
  · refine ⟨(Duration.ofNanos (exactReset p t)).subSat t, ?_, ?_⟩
    · simp [verdict, not_lt.mpr hfull, exactReset]
    · rw [Duration.nanos_subSat, Duration.nanos_ofNanos_of_lt hT]
      omega
  · -- a later instant in the same aligned window finds the same count
    have hsame : alignedStart p.window u = alignedStart p.window t := by
      have hdiv : u.nanos / p.window.nanos = t.nanos / p.window.nanos := by
        rw [Duration.le_iff_nanos] at htu
        unfold exactReset alignedStart at huT
        refine Nat.div_eq_of_lt_le ?_ ?_
        · exact le_trans (Nat.div_mul_le_self _ _) htu
        · rw [Nat.succ_mul]
          exact huT
      simp only [alignedStart, hdiv]
    simp [verdict, hsame, not_lt.mpr hfull]
  · -- a later window holds no admitted instant
    have hlater : exactReset p t ≤ alignedStart p.window u := by
      unfold exactReset alignedStart at huT ⊢
      rw [← Nat.succ_mul]
      exact Nat.mul_le_mul_right _ ((Nat.le_div_iff_mul_le hw).mpr (by rwa [Nat.succ_mul]))
    have hnone : (adm.filter fun x => alignedStart p.window x = alignedStart p.window u) = [] := by
      refine List.filter_eq_nil_iff.mpr fun x hx => ?_
      have hx' : alignedStart p.window x ≤ x.nanos := Nat.div_mul_le_self _ _
      have := hle x hx
      rw [Duration.le_iff_nanos] at this
      simp only [decide_eq_true_eq]
      omega
    simp [verdict, hnone, hL]

end FixedWindow

/-! ## A key's checks -/

/-- A refusal among a key's checks that the counting rule answers, whose own spec gives the
wait and bounds the stretch of refusals, is exact for the checks after it. -/
theorem Rule.retryExact_of_split {v : List Duration → Duration → Decision}
    {before after : List (Duration × Reply)} {t r : Duration} {d : Decision}
    (hans : Rule.Answers v [] (before ++ (t, .decision d) :: after))
    (hsorted : ((before ++ (t, .decision d) :: after).map (·.1)).Pairwise (· ≤ ·))
    (hr : d.retryAfter? = some r)
    (hspec : let adm := (before.filter (·.2.admits)).map (·.1)
      (v adm t).allowed = false → ∃ T : Nat,
        (∃ r', (v adm t).retryAfter? = some r' ∧ t.nanos + r'.nanos = T) ∧
        (∀ u, t ≤ u → u.nanos < T → (v adm u).allowed = false) ∧
        ∀ u, T ≤ u.nanos → (v adm u).allowed = true) :
    RetryExact t r after := by
  obtain ⟨-, hd, hafter⟩ := Rule.answers_split hans
  rw [List.nil_append] at hd hafter
  obtain rfl := Reply.decision.inj hd
  have hden := Decision.allowed_eq_false_of_retryAfter hr
  obtain ⟨T, ⟨r', hr', hT⟩, hrefuse, hallow⟩ := hspec hden
  obtain rfl : r = r' := Option.some.inj (hr.symm.trans hr')
  obtain ⟨-, -, hge, hsorted'⟩ := sorted_split hsorted
  rw [Rule.grant_of_refused hden] at hafter
  rw [RetryExact, hT]
  exact Rule.refusals_until hrefuse hallow after hafter hge hsorted'

/-- The retry wait of a refused window check is exact. For a sliding-log limiter whose cap is
at least the limit, and for a fixed-window limiter, in every run that checks a fresh key under
one valid policy and never forgets or evicts it: when a check of the key is refused with the
wait `r` and the instant that its reset time sums (the oldest instant that still counts plus a
window, or the end of its aligned window) is below the largest duration, every later check of
the key before `t + r` is refused and the first one at or after `t + r` is admitted. -/
theorem window_retry_exact :
    (∀ {clock : Clock} {l : SlidingLog} {key : String} {p : Policy} {cs : List Command}
        {before after : List (Duration × Reply)} {t : Duration} {d : Decision} {r : Duration},
      p.validate = .ok () → p.limit ≤ l.maxEntries → l.logs.slot? key = none →
      Session.Spares key p ⟨clock, .slidingLog l⟩ cs →
      Session.keyChecks key ⟨clock, .slidingLog l⟩ cs = before ++ (t, .decision d) :: after →
      d.retryAfter? = some r →
      SlidingLog.exactReset p ((before.filter (·.2.admits)).map (·.1)) t < Duration.limit →
      RetryExact t r after) ∧
    (∀ {clock : Clock} {l : FixedWindow} {key : String} {p : Policy} {cs : List Command}
        {before after : List (Duration × Reply)} {t : Duration} {d : Decision} {r : Duration},
      p.validate = .ok () → l.counters.slot? key = none →
      Session.Spares key p ⟨clock, .fixedWindow l⟩ cs →
      Session.keyChecks key ⟨clock, .fixedWindow l⟩ cs = before ++ (t, .decision d) :: after →
      d.retryAfter? = some r → FixedWindow.exactReset p t < Duration.limit →
      RetryExact t r after) := by
  constructor
  · intro clock l key p cs before after t d r hp hM hk hrun hsplit hr hT
    obtain ⟨hL, hw⟩ := Policy.validate_eq_ok.mp hp
    obtain ⟨hsorted, hans⟩ := SlidingLog.keyChecks_answer hp hM hk hrun
    rw [hsplit] at hsorted hans
    refine Rule.retryExact_of_split hans hsorted hr fun hden => ⟨_, SlidingLog.refusal_spec hL
      (sorted_split hsorted).1 ?_ hden hT⟩
    -- at most the limit of admitted instants lies in the window that ends at `t`
    obtain ⟨hbefore, -⟩ := Rule.answers_split hans
    have hwin := SlidingLog.window_admitted_le [] before
      (by rw [SlidingLog.expected_eq]; exact hbefore) (by simp) t.nanos
    have hin : ((before.filter (·.2.admits)).map (·.1)).filter (SlidingLog.counts p.window t) =
        ((before.filter (·.2.admits)).map (·.1)).filter (SlidingLog.inWindow p.window t.nanos) := by
      refine List.filter_congr fun u hu => ?_
      have := (sorted_split hsorted).2.1 u hu
      rw [Duration.le_iff_nanos] at this
      simp [SlidingLog.counts, SlidingLog.inWindow, this]
    rw [hin, length_filter_admitted]
    simpa using hwin
  · intro clock l key p cs before after t d r hp hk hrun hsplit hr hT
    obtain ⟨hL, hw⟩ := Policy.validate_eq_ok.mp hp
    obtain ⟨hsorted, hans⟩ := FixedWindow.keyChecks_answer hp hk hrun
    rw [hsplit] at hsorted hans
    exact Rule.retryExact_of_split hans hsorted hr fun hden => ⟨_, FixedWindow.refusal_spec hw hL
      (sorted_split hsorted).2.1 hden hT⟩

/-- Under two checks per 10 s: from 1000 s in a sliding log, the third check is refused for
10 s, a check 4 s later is still refused and one at 1010 s passes; from 1005 s in fixed
windows, the third check is refused for 5 s and one at 1010 s passes. -/
theorem window_retry_exact_waits :
    RetryExact (Duration.ofSecs 1000) (Duration.ofSecs 10)
        [(Duration.ofSecs 1004, .decision (.deny SlidingLog.name 2 (Duration.ofSecs 1010) (Duration.ofSecs 6))),
          (Duration.ofSecs 1010, .decision (.allow SlidingLog.name 2 1 (Duration.ofSecs 1020)))] ∧
      RetryExact (Duration.ofSecs 1005) (Duration.ofSecs 5)
        [(Duration.ofSecs 1010, .decision (.allow FixedWindow.name 2 1 (Duration.ofSecs 1020)))] := by
  let p := Policy.ofSecs 2 10
  have hp : p.validate = .ok () := rfl
  constructor
  · let s : Session := ⟨⟨Duration.ofSecs 1000⟩, .slidingLog SlidingLog.standard⟩
    let cs := [Command.check "client" p, .check "client" p, .check "client" p,
      .advance (Duration.ofSecs 4), .check "client" p, .advance (Duration.ofSecs 6), .check "client" p]
    let D := SlidingLog.keyed SlidingLog.standard.maxEntries
    have hk : SlidingLog.standard.logs.slot? "client" = none := rfl
    have hsteady : Command.Steady (fun _ => p) cs := by simp [cs, Command.Steady, Command.forgets]
    have hrun : s.Spares "client" p cs := D.spares (fun _ => p) "client" s _ cs rfl hsteady
    have htimes : s.clock.checkTimes "client" cs = [Duration.ofSecs 1000, Duration.ofSecs 1000,
        Duration.ofSecs 1000, Duration.ofSecs 1004, Duration.ofSecs 1010] := by
      decide +kernel
    have hslot : Slot.run (D.hold p) (D.init p) (D.step p) none
        [Duration.ofSecs 1000, Duration.ofSecs 1000, Duration.ofSecs 1000, Duration.ofSecs 1004,
          Duration.ofSecs 1010] =
        [.allow SlidingLog.name 2 1 (Duration.ofSecs 1010), .allow SlidingLog.name 2 0 (Duration.ofSecs 1010),
          .deny SlidingLog.name 2 (Duration.ofSecs 1010) (Duration.ofSecs 10),
          .deny SlidingLog.name 2 (Duration.ofSecs 1010) (Duration.ofSecs 6),
          .allow SlidingLog.name 2 1 (Duration.ofSecs 1020)] := by
      decide +kernel
    have hchecks : s.keyChecks "client" cs =
        [(Duration.ofSecs 1000, .decision (.allow SlidingLog.name 2 1 (Duration.ofSecs 1010))),
          (Duration.ofSecs 1000, .decision (.allow SlidingLog.name 2 0 (Duration.ofSecs 1010)))] ++
        (Duration.ofSecs 1000, .decision (.deny SlidingLog.name 2 (Duration.ofSecs 1010) (Duration.ofSecs 10))) ::
        [(Duration.ofSecs 1004, .decision (.deny SlidingLog.name 2 (Duration.ofSecs 1010) (Duration.ofSecs 6))),
          (Duration.ofSecs 1010, .decision (.allow SlidingLog.name 2 1 (Duration.ofSecs 1020)))] := by
      rw [D.keyChecks_fresh hp rfl hk hsteady, htimes, hslot]
      rfl
    exact window_retry_exact.1 hp (by decide) hk hrun hchecks rfl (by decide +kernel)
  · let s : Session := ⟨⟨Duration.ofSecs 1005⟩, .fixedWindow FixedWindow.standard⟩
    let cs := [Command.check "client" p, .check "client" p, .check "client" p,
      .advance (Duration.ofSecs 5), .check "client" p]
    have hk : FixedWindow.standard.counters.slot? "client" = none := rfl
    have hsteady : Command.Steady (fun _ => p) cs := by simp [cs, Command.Steady, Command.forgets]
    have hrun : s.Spares "client" p cs := FixedWindow.keyed.spares (fun _ => p) "client" s _ cs rfl hsteady
    have htimes : s.clock.checkTimes "client" cs = [Duration.ofSecs 1005, Duration.ofSecs 1005,
        Duration.ofSecs 1005, Duration.ofSecs 1010] := by
      decide +kernel
    have hslot : Slot.run (FixedWindow.keyed.hold p) (FixedWindow.keyed.init p)
        (FixedWindow.keyed.step p) none
        [Duration.ofSecs 1005, Duration.ofSecs 1005, Duration.ofSecs 1005, Duration.ofSecs 1010] =
        [.allow FixedWindow.name 2 1 (Duration.ofSecs 1010), .allow FixedWindow.name 2 0 (Duration.ofSecs 1010),
          .deny FixedWindow.name 2 (Duration.ofSecs 1010) (Duration.ofSecs 5),
          .allow FixedWindow.name 2 1 (Duration.ofSecs 1020)] := by
      decide +kernel
    have hchecks : s.keyChecks "client" cs =
        [(Duration.ofSecs 1005, .decision (.allow FixedWindow.name 2 1 (Duration.ofSecs 1010))),
          (Duration.ofSecs 1005, .decision (.allow FixedWindow.name 2 0 (Duration.ofSecs 1010)))] ++
        (Duration.ofSecs 1005, .decision (.deny FixedWindow.name 2 (Duration.ofSecs 1010) (Duration.ofSecs 5))) ::
        [(Duration.ofSecs 1010, .decision (.allow FixedWindow.name 2 1 (Duration.ofSecs 1020)))] := by
      rw [FixedWindow.keyed.keyChecks_fresh hp rfl hk hsteady, htimes, hslot]
      rfl
    exact window_retry_exact.2 hp hk hrun hchecks rfl (by decide +kernel)

end Throttle
