import Mathlib
import Throttle.Proofs.Session

/-! # Sliding logs count exactly

The counting rule of a sliding window: a check at `t` counts the admitted instants `u`
with `t < u + window` (all of them while less than one window has passed since the
epoch), admits while fewer than the limit count, reports the quota whole again one window
after the oldest instant that counts, and makes a refused request wait until then.
`SlidingLog.expected` states the rule over a history of check instants.

When the cap on entries is at least the limit, the log a key keeps is exactly its admitted
instants that still count at its last check (`SlidingLog.LogMatches`). Pruning at a later
check removes exactly the instants that stopped counting, so every check of a key answers
as the rule says, and no window of the policy's length holds more than the limit of
admitted checks.
-/

namespace Throttle

namespace SlidingLog

/-- Whether the instant `u` still counts at `t` for a window `w`. -/
def counts (w t u : Duration) : Bool := decide (t.nanos < u.nanos + w.nanos)

/-- The decision of the counting rule at `t`, after the admitted instants `adm`. -/
def verdict (p : Policy) (adm : List Duration) (t : Duration) : Decision :=
  let live := adm.filter (counts p.window t)
  if live.length < p.limit then
    .allow name p.limit (p.limit - live.length - 1)
      (((live ++ [t]).min?.getD t).addSat p.window)
  else
    let reset := (live.min?.getD t).addSat p.window
    .deny name p.limit reset (reset.subSat t)

/-- The decisions of the counting rule for checks at the instants `ts`, after the admitted
instants `adm`; an admitted check counts for the later ones. -/
def expected (p : Policy) : List Duration → List Duration → List Decision
  | _, [] => []
  | adm, t :: ts =>
    let d := verdict p adm t
    d :: expected p (if d.allowed then adm ++ [t] else adm) ts

/-- The log of a key matches the admitted instants `adm`: these are in order and not after
the last touch, and the log holds exactly those that still count at the last touch. A key
without a slot has admitted nothing. -/
def LogMatches (w : Duration) (adm : List Duration) : Option (Slot (List Duration)) → Prop
  | none => adm = []
  | some slot => adm.Pairwise (· ≤ ·) ∧ (∀ u ∈ adm, u ≤ slot.touched) ∧
      slot.state = adm.filter (counts w slot.touched)

variable {w t : Duration}

theorem counts_of_le {last u : Duration} (hle : last ≤ t) (h : counts w t u) : counts w last u := by
  simp only [counts, decide_eq_true_eq] at h ⊢
  exact lt_of_le_of_lt hle h

theorem counts_self (hw : 0 < w.nanos) : counts w t t := by
  simp only [counts, decide_eq_true_eq]
  omega

/-- Dropping the front of an ordered list while a property holds that passes down the
order is filtering by its negation. -/
theorem dropWhile_eq_filter {P : Duration → Bool} (hP : ∀ a b, a ≤ b → P b → P a) :
    ∀ l : List Duration, l.Pairwise (· ≤ ·) → l.dropWhile P = l.filter (fun u => !P u)
  | [], _ => rfl
  | a :: rest, hl => by
      obtain ⟨ha, hrest⟩ := List.pairwise_cons.mp hl
      by_cases hPa : P a
      · simp [hPa, dropWhile_eq_filter hP rest hrest]
      · have hkeep : rest.filter (fun u => !P u) = rest :=
          List.filter_eq_self.mpr fun b hb => by simpa using fun hPb => hPa (hP a b (ha b hb) hPb)
        simp [hPa, hkeep]

/-- Pruning an ordered log keeps exactly the instants that still count. -/
theorem prune_eq_filter {log : List Duration} (hlog : log.Pairwise (· ≤ ·)) :
    prune w t log = log.filter (counts w t) := by
  unfold prune
  split
  · rename_i hwt
    rw [dropWhile_eq_filter _ log hlog]
    · congr 1
      funext u
      have hwt' : w.nanos ≤ t.nanos := hwt
      rw [Bool.eq_iff_iff]
      simp only [counts, Duration.le_iff_nanos, Duration.nanos_subSat, Bool.not_eq_true',
        decide_eq_false_iff_not, decide_eq_true_eq]
      omega
    · intro a b hab hb
      simp only [decide_eq_true_eq, Duration.le_iff_nanos] at hb ⊢
      exact le_trans hab hb
  · rename_i hwt
    refine (List.filter_eq_self.mpr fun u _ => ?_).symm
    simp only [Duration.le_iff_nanos, not_le] at hwt
    simp only [counts, decide_eq_true_eq]
    omega

/-- Instants that count at a later check counted at every earlier one. -/
theorem filter_counts_of_le {last : Duration} (hle : last ≤ t) (adm : List Duration) :
    (adm.filter (counts w last)).filter (counts w t) = adm.filter (counts w t) := by
  rw [List.filter_filter]
  congr 1
  funext u
  by_cases h : counts w t u = true
  · simp [h, counts_of_le hle h]
  · simp [h]

/-- The least of an ordered list is its first element. -/
theorem min?_eq_head? {l : List Duration} (hl : l.Pairwise (· ≤ ·)) : l.min? = l.head? :=
  List.min?_eq_head? (hl.imp fun h => min_eq_left h)

variable {M : Nat} {p : Policy} {adm log : List Duration}

/-- One check of a log whose pruning leaves the admitted instants that count: it decides
as the counting rule, and leaves the instants that count after it. -/
theorem record_eq (hM : p.limit ≤ M) (hw : 0 < p.window.nanos) (hadm : adm.Pairwise (· ≤ ·))
    (hle : ∀ u ∈ adm, u ≤ t) (hprune : prune p.window t log = adm.filter (counts p.window t)) :
    record M p log t =
      ((if (verdict p adm t).allowed then adm ++ [t] else adm).filter (counts p.window t),
        verdict p adm t) := by
  have hlive : (adm.filter (counts p.window t)).Pairwise (· ≤ ·) := hadm.filter _
  have hsnoc : (adm.filter (counts p.window t) ++ [t]).Pairwise (· ≤ ·) := by
    refine List.pairwise_append.mpr ⟨hlive, List.pairwise_singleton _ _, ?_⟩
    intro u hu v hv
    rw [List.mem_singleton.mp hv]
    exact hle u (List.mem_filter.mp hu).1
  unfold record verdict
  rw [hprune]
  by_cases hlt : (adm.filter (counts p.window t)).length < p.limit
  · have htrim : trim M (adm.filter (counts p.window t) ++ [t]) =
        adm.filter (counts p.window t) ++ [t] := by
      simp only [trim, List.length_append, List.length_singleton]
      rw [Nat.sub_eq_zero_of_le (by omega), List.drop_zero]
    simp [hlt, htrim, min?_eq_head? hsnoc, List.filter_append, counts_self hw]
  · simp [hlt, min?_eq_head? hlive]

/-- The key's own checks answer as the counting rule, from a log that matches the
admitted instants and clock readings that keep the order. -/
theorem run_eq_expected (hM : p.limit ≤ M) (hw : 0 < p.window.nanos) :
    ∀ (slot? : Option (Slot (List Duration))) (adm ts : List Duration),
      LogMatches p.window adm slot? → (∀ slot ∈ slot?, ∀ t ∈ ts, slot.touched ≤ t) →
      (adm ++ ts).Pairwise (· ≤ ·) →
      Slot.run p.window (fun _ => []) (record M p) slot? ts = expected p adm ts
  | _, _, [], _, _, _ => rfl
  | slot?, adm, t :: ts, hmatch, htouch, hsorted => by
      obtain ⟨hadm, -, hcross⟩ := List.pairwise_append.mp hsorted
      have hle : ∀ u ∈ adm, u ≤ t := fun u hu => hcross u hu t List.mem_cons_self
      have hts : ∀ t' ∈ ts, t ≤ t' := (List.pairwise_cons.mp (List.pairwise_append.mp hsorted).2.1).1
      -- the log of the slot, pruned at `t`, is what still counts of the admitted instants
      have hprune : prune p.window t (slot?.getD ⟨[], t, t⟩).state =
          adm.filter (counts p.window t) := by
        cases slot? with
        | none =>
            cases hmatch
            simp [prune]
        | some slot =>
            obtain ⟨-, -, hstate⟩ := hmatch
            have hlast := htouch slot rfl t List.mem_cons_self
            rw [Option.getD_some, hstate, prune_eq_filter (hadm.filter _),
              filter_counts_of_le hlast]
      have hrec := record_eq hM hw hadm hle hprune
      have hvisit := Slot.visit_of_le p.window (fun _ => []) (record M p)
        (fun slot hslot => htouch slot hslot t List.mem_cons_self)
      set adm' := if (verdict p adm t).allowed then adm ++ [t] else adm with hadm'
      have hsorted' : (adm' ++ ts).Pairwise (· ≤ ·) := by
        rw [hadm']
        split
        · simpa using hsorted
        · exact hsorted.sublist ((List.sublist_cons_self t ts).append_left adm)
      have hmatch' : LogMatches p.window adm' (some (Slot.visit slot? t p.window (fun _ => [])
          (record M p)).1) := by
        refine ⟨(List.pairwise_append.mp hsorted').1, fun u hu => ?_, ?_⟩
        · rw [hvisit]
          rw [hadm'] at hu
          split at hu
          · rcases List.mem_append.mp hu with hu | hu
            · exact hle u hu
            · exact le_of_eq (List.mem_singleton.mp hu)
          · exact hle u hu
        · rw [hvisit]
          simp only [Slot.touch_touched]
          rw [hrec]
      have ih := run_eq_expected hM hw _ adm' ts hmatch'
        (fun slot hslot t' ht' => by
          rw [Option.mem_def, Option.some_inj] at hslot
          rw [← hslot, hvisit]
          exact hts t' ht') hsorted'
      rw [Slot.run, expected, ih, hvisit]
      simp only [hrec]
      rfl

/-- Whether the instant `u` lies in the window of length `w` that ends at `t` nanoseconds:
`t - w < u ≤ t`. -/
def inWindow (w : Duration) (t : Nat) (u : Duration) : Bool :=
  decide (u.nanos ≤ t ∧ t < u.nanos + w.nanos)

theorem verdict_allowed_iff : (verdict p adm t).allowed ↔
    (adm.filter (counts p.window t)).length < p.limit := by
  by_cases h : (adm.filter (counts p.window t)).length < p.limit <;> simp [verdict, h]

/-- Admitting at `t` keeps every window within the limit: the windows that end before `t`
do not hold it, and the others held only instants that still counted at `t`. -/
theorem window_le_snoc (hlive : (adm.filter (counts p.window t)).length < p.limit)
    (hbound : ∀ e, (adm.filter (inWindow p.window e)).length ≤ p.limit) (e : Nat) :
    ((adm ++ [t]).filter (inWindow p.window e)).length ≤ p.limit := by
  rw [List.filter_append, List.length_append]
  by_cases hte : t.nanos ≤ e
  · have hsub : (adm.filter (inWindow p.window e)).length ≤
        (adm.filter (counts p.window t)).length := by
      apply List.Sublist.length_le
      apply List.monotone_filter_right
      intro u hu
      simp only [inWindow, counts, decide_eq_true_eq] at hu ⊢
      omega
    have hone : ([t].filter (inWindow p.window e)).length ≤ 1 := by
      simp only [List.filter_singleton]
      cases inWindow p.window e t <;> simp
    omega
  · have hnot : inWindow p.window e t = false := by
      simp only [inWindow, decide_eq_false_iff_not, not_and]
      omega
    simpa [List.filter_singleton, hnot] using hbound e

/-- Along checks that answer as the counting rule, the admitted checks that fall in any
window, together with the admitted instants before them, never exceed the limit. -/
theorem window_admitted_le :
    ∀ (adm : List Duration) (xs : List (Duration × Reply)),
      xs.map (·.2) = (expected p adm (xs.map (·.1))).map .decision →
      (∀ e, (adm.filter (inWindow p.window e)).length ≤ p.limit) →
      ∀ e, (adm.filter (inWindow p.window e)).length +
        (xs.filter fun x => x.2.admits && inWindow p.window e x.1).length ≤ p.limit
  | adm, [], _, hbound, e => by simpa using hbound e
  | adm, (t, r) :: xs, hreplies, hbound, e => by
      simp only [List.map_cons, expected, List.cons.injEq] at hreplies
      obtain ⟨rfl, hrest⟩ := hreplies
      by_cases hallowed : (verdict p adm t).allowed
      · have hbound' := window_le_snoc (verdict_allowed_iff.mp hallowed) hbound
        have ih := window_admitted_le (adm ++ [t]) xs (by simpa [hallowed] using hrest) hbound' e
        simp only [List.filter_append, List.length_append] at ih
        by_cases hin : inWindow p.window e t
        · simp [Reply.admits, hallowed, hin] at ih ⊢
          omega
        · simp [Reply.admits, hallowed, hin] at ih ⊢
          omega
      · have ih := window_admitted_le adm xs (by simpa [hallowed] using hrest) hbound e
        simpa [List.filter_cons, Reply.admits, hallowed] using ih

end SlidingLog

/-- The checks of a key in any run that checks it under one valid policy and never forgets
or evicts it, on a sliding-log limiter whose cap is at least the limit and that holds
nothing yet for the key, happen at clock readings in order and answer exactly as the
counting rule over them; so no window of the policy's length ever holds more than the
limit of admitted checks. -/
theorem slidingLog_checks_exact {clock : Clock} {l : SlidingLog} {key : String}
    {p : Policy} {cs : List Command} (hp : p.validate = .ok ()) (hM : p.limit ≤ l.maxEntries)
    (hk : l.logs.slot? key = none) (hrun : Session.Spares key p ⟨clock, .slidingLog l⟩ cs) :
    let checks := Session.keyChecks key ⟨clock, .slidingLog l⟩ cs
    (checks.map (·.1)).Pairwise (· ≤ ·) ∧
      checks.map (·.2) = (SlidingLog.expected p [] (checks.map (·.1))).map .decision ∧
      ∀ e : Nat, (checks.filter fun x => x.2.admits && SlidingLog.inWindow p.window e x.1).length ≤
        p.limit := by
  intro checks
  have hw : 0 < p.window.nanos := (Policy.validate_eq_ok.mp hp).2
  have hsorted := Session.keyChecks_sorted key ⟨clock, .slidingLog l⟩ cs
  have hslots := ((SlidingLog.keyed l.maxEntries).keyChecks_eq hp _ l.logs cs rfl
    (KeyStore.Unique.of_slot?_eq_none hk) hrun).1
  have hspec : checks.map (·.2) = (SlidingLog.expected p [] (checks.map (·.1))).map .decision := by
    rw [hslots, hk]
    exact congrArg _ (SlidingLog.run_eq_expected hM hw none [] _ rfl (by simp) (by simpa using hsorted))
  refine ⟨hsorted, hspec, fun e => ?_⟩
  simpa using SlidingLog.window_admitted_le [] checks hspec (by simp) e

/-- Two checks of a key under two requests per ten seconds and, twelve seconds on, a third:
the run spares the key, so its checks answer as the counting rule. -/
theorem slidingLog_checks_exact_run :
    let p := Policy.ofSecs 2 10
    let s : Session := ⟨⟨Duration.ofSecs 1000⟩, .slidingLog SlidingLog.standard⟩
    let cs := [Command.check "client" p, .check "client" p, .advance (Duration.ofSecs 12),
      .check "client" p]
    let checks := Session.keyChecks "client" s cs
    p.validate = .ok () ∧ p.limit ≤ SlidingLog.standard.maxEntries ∧
      SlidingLog.standard.logs.slot? "client" = none ∧ Session.Spares "client" p s cs ∧
      (checks.map (·.1)).Pairwise (· ≤ ·) ∧ checks.map (·.2) = (SlidingLog.expected p [] (checks.map (·.1))).map .decision ∧
      ∀ e : Nat, (checks.filter fun x => x.2.admits && SlidingLog.inWindow p.window e x.1).length ≤
        p.limit := by
  have hp : (Policy.ofSecs 2 10).validate = .ok () := rfl
  have hM : (Policy.ofSecs 2 10).limit ≤ SlidingLog.standard.maxEntries := by decide
  have hk : SlidingLog.standard.logs.slot? "client" = none := rfl
  have hrun : Session.Spares "client" (Policy.ofSecs 2 10)
      ⟨⟨Duration.ofSecs 1000⟩, .slidingLog SlidingLog.standard⟩
      [.check "client" (Policy.ofSecs 2 10), .check "client" (Policy.ofSecs 2 10),
        .advance (Duration.ofSecs 12), .check "client" (Policy.ofSecs 2 10)] :=
    ⟨rfl, rfl, rfl, rfl, trivial⟩
  exact ⟨hp, hM, hk, hrun, slidingLog_checks_exact hp hM hk hrun⟩

end Throttle
