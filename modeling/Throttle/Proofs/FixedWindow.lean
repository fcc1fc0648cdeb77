import Mathlib
import Throttle.Proofs.Session

/-! # Fixed windows count per aligned window

Windows are the intervals `[k * w, (k + 1) * w)` of nanoseconds since the epoch. The
counting rule: a check at `t` counts the admitted instants that start the same aligned
window as `t`, admits while fewer than the limit count, and in either case reports the
quota whole again at the end of that window, saturating at the largest duration; a
refused request waits until then (`FixedWindow.expected`).

A key's counter always holds the start of the window of its last check and the number of
admitted checks in that window (`FixedWindow.CountMatches`): a check in a later window
finds the counter of an earlier one and starts it again from zero, however many windows
lie between. Every check of a key answers as the rule says, each aligned window holds at
most the limit of admitted checks, and an interval of one window's length at most twice
the limit.
-/

namespace Throttle

namespace FixedWindow

/-- The start of the aligned window of length `w` that holds `t`, in nanoseconds. -/
def alignedStart (w t : Duration) : Nat := t.nanos / w.nanos * w.nanos

/-- The decision of the counting rule at `t`, after the admitted instants `adm`. -/
def verdict (p : Policy) (adm : List Duration) (t : Duration) : Decision :=
  let c := (adm.filter fun u => alignedStart p.window u = alignedStart p.window t).length
  let reset := Duration.ofNanos (alignedStart p.window t + p.window.nanos)
  if c < p.limit then .allow name p.limit (p.limit - c - 1) reset
  else .deny name p.limit reset (reset.subSat t)

/-- The instants admitted after `adm` when the next check is at `t`. -/
def admitAt (p : Policy) (adm : List Duration) (t : Duration) : List Duration :=
  if (verdict p adm t).allowed then adm ++ [t] else adm

/-- The decisions of the counting rule for checks at the instants `ts`, after the admitted
instants `adm`; an admitted check counts for the later ones. -/
def expected (p : Policy) : List Duration → List Duration → List Decision
  | _, [] => []
  | adm, t :: ts => verdict p adm t :: expected p (admitAt p adm t) ts

/-- The instants admitted by the counting rule over checks at `ts`, after `adm`. -/
def admittedAfter (p : Policy) : List Duration → List Duration → List Duration
  | adm, [] => adm
  | adm, t :: ts => admittedAfter p (admitAt p adm t) ts

/-- A counter at `last` counts the admitted instants `adm`: none of them is after `last`,
and the counter holds the start of the window of `last` and the number of them in it. -/
def Counts (w : Duration) (adm : List Duration) (last : Duration) (c : WindowCount) : Prop :=
  (∀ u ∈ adm, u ≤ last) ∧ c.start = windowStart last w ∧
    c.count = (adm.filter fun u => alignedStart w u = alignedStart w last).length

/-- The counter of a key counts the admitted instants `adm` at its last touch; a key
without a slot has admitted nothing. -/
def CountMatches (w : Duration) (adm : List Duration) : Option (Slot WindowCount) → Prop
  | none => adm = []
  | some slot => Counts w adm slot.touched slot.state

variable {w t : Duration}

theorem nanos_windowStart : (windowStart t w).nanos = alignedStart w t :=
  Duration.nanos_ofNanos_of_lt (lt_of_le_of_lt (Nat.div_mul_le_self _ _) t.nanos_lt)

theorem alignedStart_le_of_le {a b : Duration} (h : a ≤ b) : alignedStart w a ≤ alignedStart w b :=
  Nat.mul_le_mul_right _ (Nat.div_le_div_right h)

theorem windowStart_le_of_le {a b : Duration} (h : a ≤ b) : windowStart a w ≤ windowStart b w := by
  rw [Duration.le_iff_nanos, nanos_windowStart, nanos_windowStart]
  exact alignedStart_le_of_le h

/-- A multiple of the window length is its own aligned start. -/
theorem alignedStart_windowStart (hw : 0 < w.nanos) :
    alignedStart w (windowStart t w) = alignedStart w t := by
  rw [alignedStart, nanos_windowStart, alignedStart, Nat.mul_div_cancel _ hw]

/-- The start of an instant's window is, to the nanosecond, the greatest multiple of the
window length not after the instant: the instant lies in `[start, start + w)`, aligning the
start again gives it back, and a later instant never has an earlier window. -/
theorem windowStart_aligned (now w : Duration) (hw : 0 < w.nanos) :
    (windowStart now w).nanos = now.nanos / w.nanos * w.nanos ∧
      (windowStart now w).nanos ≤ now.nanos ∧ now.nanos < (windowStart now w).nanos + w.nanos ∧
      windowStart (windowStart now w) w = windowStart now w ∧
      Monotone fun t : Duration => windowStart t w := by
  refine ⟨nanos_windowStart, ?_, ?_, ?_, fun a b h => windowStart_le_of_le h⟩
  · rw [nanos_windowStart]
    exact Nat.div_mul_le_self _ _
  · rw [nanos_windowStart]
    exact Nat.lt_div_mul_add hw
  · apply Duration.ext
    rw [nanos_windowStart, alignedStart_windowStart hw, nanos_windowStart]

/-- Instants of 1.25 s align to 1 s on half-second windows. -/
theorem windowStart_aligned_half_seconds :
    0 < (Duration.ofMillis 500).nanos ∧
      windowStart (Duration.ofMillis 1250) (Duration.ofMillis 500) = Duration.ofMillis 1000 ∧
      (windowStart (Duration.ofMillis 1250) (Duration.ofMillis 500)).nanos =
        (Duration.ofMillis 1250).nanos / (Duration.ofMillis 500).nanos * (Duration.ofMillis 500).nanos ∧
      (windowStart (Duration.ofMillis 1250) (Duration.ofMillis 500)).nanos ≤ (Duration.ofMillis 1250).nanos ∧
      (Duration.ofMillis 1250).nanos <
        (windowStart (Duration.ofMillis 1250) (Duration.ofMillis 500)).nanos + (Duration.ofMillis 500).nanos ∧
      windowStart (windowStart (Duration.ofMillis 1250) (Duration.ofMillis 500)) (Duration.ofMillis 500) =
        windowStart (Duration.ofMillis 1250) (Duration.ofMillis 500) ∧
      Monotone fun t : Duration => windowStart t (Duration.ofMillis 500) :=
  have hw : 0 < (Duration.ofMillis 500).nanos := by decide
  ⟨hw, by decide, windowStart_aligned (Duration.ofMillis 1250) (Duration.ofMillis 500) hw⟩

variable {p : Policy} {adm : List Duration} {last : Duration}

/-- Moving a counter that matches the admitted instants at `last` to the window of a later
`t` leaves the start of that window and the admitted instants in it: a later window
starts again from zero, since every admitted instant lies in an earlier one. -/
theorem moved_eq {c : WindowCount} (hc : Counts p.window adm last c) (hlast : last ≤ t) :
    (if c.start < windowStart t p.window then (⟨windowStart t p.window, 0⟩ : WindowCount) else c) =
      ⟨windowStart t p.window,
        (adm.filter fun u => alignedStart p.window u = alignedStart p.window t).length⟩ := by
  obtain ⟨hle, hstart, hcount⟩ := hc
  rw [hstart]
  split
  · rename_i hlt
    rw [Duration.lt_iff_nanos, nanos_windowStart, nanos_windowStart] at hlt
    have hnone : adm.filter (fun u => alignedStart p.window u = alignedStart p.window t) = [] := by
      refine List.filter_eq_nil_iff.mpr fun u hu => ?_
      have hu' : alignedStart p.window u ≤ alignedStart p.window last :=
        alignedStart_le_of_le (hle u hu)
      simp only [decide_eq_true_eq]
      omega
    rw [hnone]
    rfl
  · rename_i hnlt
    have hsame : windowStart last p.window = windowStart t p.window :=
      le_antisymm (windowStart_le_of_le hlast) (not_lt.mp hnlt)
    have hsame' : alignedStart p.window last = alignedStart p.window t := by
      rw [← nanos_windowStart, ← nanos_windowStart, hsame]
    obtain ⟨start, n⟩ := c
    simp only at hstart hcount
    subst hstart hcount
    rw [hsame, hsame']

/-- One check of a counter that matches the admitted instants decides as the counting
rule, and leaves the counter of the window of `t` with the instants admitted after it. -/
theorem count_eq {c : WindowCount} (hc : Counts p.window adm last c) (hlast : last ≤ t) :
    count p c t =
      (⟨windowStart t p.window,
        ((admitAt p adm t).filter fun u => alignedStart p.window u = alignedStart p.window t).length⟩,
        verdict p adm t) := by
  have hmoved := moved_eq hc hlast
  have hreset : (windowStart t p.window).addSat p.window =
      Duration.ofNanos (alignedStart p.window t + p.window.nanos) := by
    simp only [Duration.addSat, nanos_windowStart]
  unfold count
  simp only [hmoved, hreset]
  by_cases hlt : (adm.filter fun u => alignedStart p.window u = alignedStart p.window t).length <
      p.limit
  · simp [verdict, admitAt, hlt, List.filter_append, Nat.sub_sub]
  · simp [verdict, admitAt, hlt]

/-- The key's own checks, at clock readings in order and not before its last touch, answer
as the counting rule and leave a counter that matches the instants the rule admits. -/
theorem run_eq_expected :
    ∀ (slot? : Option (Slot WindowCount)) (adm ts : List Duration),
      CountMatches p.window adm slot? → (∀ slot ∈ slot?, ∀ t ∈ ts, slot.touched ≤ t) →
      ts.Pairwise (· ≤ ·) →
      Slot.run p.window (fun now => ⟨windowStart now p.window, 0⟩) (count p) slot? ts =
          expected p adm ts ∧
        CountMatches p.window (admittedAfter p adm ts)
          (Slot.final p.window (fun now => ⟨windowStart now p.window, 0⟩) (count p) slot? ts)
  | _, _, [], hmatch, _, _ => ⟨rfl, hmatch⟩
  | slot?, adm, t :: ts, hmatch, htouch, hsorted => by
      obtain ⟨hts, hsorted'⟩ := List.pairwise_cons.mp hsorted
      -- the counter found at `t` (a new key's starts at `t`) counts at its last touch
      have hbase : Counts p.window adm (slot?.getD ⟨⟨windowStart t p.window, 0⟩, t, t⟩).touched
            (slot?.getD ⟨⟨windowStart t p.window, 0⟩, t, t⟩).state ∧
          (slot?.getD ⟨⟨windowStart t p.window, 0⟩, t, t⟩).touched ≤ t := by
        cases slot? with
        | none =>
            cases hmatch
            exact ⟨⟨by simp, rfl, rfl⟩, le_rfl⟩
        | some slot => exact ⟨hmatch, htouch slot rfl t List.mem_cons_self⟩
      obtain ⟨hc, hlast⟩ := hbase
      have hle := hc.1
      have hcnt := count_eq hc hlast
      have hvisit := Slot.visit_of_le p.window (fun now => ⟨windowStart now p.window, 0⟩)
        (count p) (fun slot hslot => htouch slot hslot t List.mem_cons_self)
      have hmatch' : CountMatches p.window (admitAt p adm t) (some (Slot.visit slot? t p.window
          (fun now => ⟨windowStart now p.window, 0⟩) (count p)).1) := by
        rw [hvisit]
        refine ⟨fun u hu => ?_, by simp [hcnt], by simp [hcnt]; rfl⟩
        simp only [Slot.touch_touched]
        unfold admitAt at hu
        split at hu
        · rcases List.mem_append.mp hu with hu | hu
          · exact le_trans (hle u hu) hlast
          · exact le_of_eq (List.mem_singleton.mp hu)
        · exact le_trans (hle u hu) hlast
      have hnext : ∀ slot ∈ some (Slot.visit slot? t p.window
          (fun now => ⟨windowStart now p.window, 0⟩) (count p)).1, ∀ t' ∈ ts, slot.touched ≤ t' := by
        intro slot hslot t' ht'
        rw [Option.mem_def, Option.some.injEq] at hslot
        rw [← hslot, hvisit]
        exact hts t' ht'
      obtain ⟨ih, hfinal⟩ := run_eq_expected _ (admitAt p adm t) ts hmatch' hnext hsorted'
      refine ⟨?_, hfinal⟩
      rw [Slot.run, expected, ih, hvisit]
      simp [hcnt]

/-- Along checks that answer as the counting rule, the instants the rule admits are the
earlier ones and then the admitted checks. -/
theorem admittedAfter_eq :
    ∀ (adm : List Duration) (xs : List (Duration × Reply)),
      xs.map (·.2) = (expected p adm (xs.map (·.1))).map .decision →
      admittedAfter p adm (xs.map (·.1)) = adm ++ (xs.filter (·.2.admits)).map (·.1)
  | _, [], _ => by simp [admittedAfter]
  | adm, (t, r) :: xs, hreplies => by
      simp only [List.map_cons, expected, List.cons.injEq] at hreplies
      obtain ⟨rfl, hrest⟩ := hreplies
      rw [List.map_cons, admittedAfter, admittedAfter_eq _ xs hrest]
      by_cases hallowed : (verdict p adm t).allowed <;> simp [admitAt, hallowed, Reply.admits]

/-- Admitting at `t` keeps every aligned window within the limit: only the window of `t`
grows, and it held fewer than the limit. -/
theorem aligned_le_admitAt
    (hbound : ∀ a, (adm.filter fun u => alignedStart p.window u = a).length ≤ p.limit)
    (a : Nat) : ((admitAt p adm t).filter fun u => alignedStart p.window u = a).length ≤ p.limit := by
  unfold admitAt
  split
  · rename_i hallowed
    have hlt : (adm.filter fun u => alignedStart p.window u = alignedStart p.window t).length <
        p.limit := by
      by_contra hge
      simp [verdict, hge] at hallowed
    rw [List.filter_append, List.length_append]
    by_cases ha : alignedStart p.window t = a
    · subst ha
      simpa using hlt
    · simpa [ha] using hbound a
  · exact hbound a

/-- Along checks that answer as the counting rule, no aligned window holds more than the
limit of admitted checks, counting the admitted instants before them. -/
theorem window_admitted_le :
    ∀ (adm : List Duration) (xs : List (Duration × Reply)),
      xs.map (·.2) = (expected p adm (xs.map (·.1))).map .decision →
      (∀ a, (adm.filter fun u => alignedStart p.window u = a).length ≤ p.limit) →
      ∀ a, (adm.filter fun u => alignedStart p.window u = a).length +
        (xs.filter fun x => x.2.admits && alignedStart p.window x.1 = a).length ≤ p.limit
  | adm, [], _, hbound, a => by simpa using hbound a
  | adm, (t, r) :: xs, hreplies, hbound, a => by
      simp only [List.map_cons, expected, List.cons.injEq] at hreplies
      obtain ⟨rfl, hrest⟩ := hreplies
      have ih := window_admitted_le (admitAt p adm t) xs hrest (aligned_le_admitAt hbound) a
      by_cases hallowed : (verdict p adm t).allowed
      · by_cases ha : alignedStart p.window t = a
        · simp [admitAt, hallowed, ha, Reply.admits, List.filter_append] at ih ⊢
          omega
        · simpa [admitAt, hallowed, ha, Reply.admits, List.filter_append] using ih
      · simpa [admitAt, hallowed, Reply.admits] using ih

/-- A filter is no longer than two filters that together catch every element it keeps. -/
theorem length_filter_le_add {α : Type} (P Q R : α → Bool) (h : ∀ x, P x → Q x ∨ R x) :
    ∀ xs : List α, (xs.filter P).length ≤ (xs.filter Q).length + (xs.filter R).length
  | [] => le_rfl
  | x :: xs => by
      have ih := length_filter_le_add P Q R h xs
      simp only [List.filter_cons]
      by_cases hP : P x
      · rcases h x hP with hQ | hR
        · by_cases hR : R x <;> simp [hP, hQ, hR] <;> omega
        · by_cases hQ : Q x <;> simp [hP, hQ, hR] <;> omega
      · by_cases hQ : Q x <;> by_cases hR : R x <;> simp [hP, hQ, hR] <;> omega

/-- An interval of one window's length meets at most two aligned windows, so it holds at
most twice the limit of admitted checks. -/
theorem interval_admitted_le (hw : 0 < p.window.nanos) (xs : List (Duration × Reply))
    (hbound : ∀ a, (xs.filter fun x => x.2.admits && alignedStart p.window x.1 = a).length ≤
      p.limit) (a : Nat) :
    (xs.filter fun x => x.2.admits && decide (a ≤ x.1.nanos ∧ x.1.nanos ≤ a + p.window.nanos)).length ≤
      2 * p.limit := by
  have htwo := length_filter_le_add
    (fun x : Duration × Reply => x.2.admits && decide (a ≤ x.1.nanos ∧ x.1.nanos ≤ a + p.window.nanos))
    (fun x => x.2.admits && alignedStart p.window x.1 = a / p.window.nanos * p.window.nanos)
    (fun x => x.2.admits && alignedStart p.window x.1 = (a / p.window.nanos + 1) * p.window.nanos)
    (fun x hx => by
      simp only [Bool.and_eq_true, decide_eq_true_eq] at hx ⊢
      obtain ⟨hadm, hlo, hhi⟩ := hx
      have hlo' : a / p.window.nanos ≤ x.1.nanos / p.window.nanos := Nat.div_le_div_right hlo
      have hhi' : x.1.nanos / p.window.nanos ≤ a / p.window.nanos + 1 := by
        calc x.1.nanos / p.window.nanos ≤ (a + p.window.nanos) / p.window.nanos :=
              Nat.div_le_div_right hhi
          _ = a / p.window.nanos + 1 := Nat.add_div_right a hw
      unfold alignedStart
      rcases Nat.lt_or_ge (x.1.nanos / p.window.nanos) (a / p.window.nanos + 1) with hlt | hge
      · exact Or.inl ⟨hadm, by rw [show x.1.nanos / p.window.nanos = a / p.window.nanos by omega]⟩
      · exact Or.inr ⟨hadm, by rw [show x.1.nanos / p.window.nanos = a / p.window.nanos + 1 by omega]⟩)
    xs
  have h1 := hbound (a / p.window.nanos * p.window.nanos)
  have h2 := hbound ((a / p.window.nanos + 1) * p.window.nanos)
  omega

/-- A counter that counts the admitted instants `adm`, touched last at the last clock
reading of `ts`, shows the admitted instants in the window of that reading. -/
theorem count_of_matches {ts : List Duration} {slot? : Option (Slot WindowCount)}
    (hmatch : CountMatches p.window adm slot?) (htouched : slot?.map (·.touched) = ts.getLast?) :
    (slot?.map (·.state)).map (·.count) = ts.getLast?.map fun t =>
      (adm.filter fun u => alignedStart p.window u = alignedStart p.window t).length := by
  rw [← htouched]
  cases slot? with
  | none => rfl
  | some slot =>
      obtain ⟨-, -, hcount⟩ := hmatch
      simp [hcount]

end FixedWindow

/-- The checks of a key in any run that checks it under one valid policy and never forgets
or evicts it, on a fixed-window limiter that holds nothing yet for the key, answer exactly
as the counting rule over their clock readings; the count stored for the key is the
number of admitted checks in the window of its last check, and any interval of one
window's length holds at most twice the limit of admitted checks. -/
theorem fixedWindow_checks_exact {clock : Clock} {l : FixedWindow} {key : String}
    {p : Policy} {cs : List Command} (hp : p.validate = .ok ())
    (hk : l.counters.slot? key = none) (hrun : Session.Spares key p ⟨clock, .fixedWindow l⟩ cs) :
    let s : Session := ⟨clock, .fixedWindow l⟩
    let checks := s.keyChecks key cs
    let admitted := (checks.filter (·.2.admits)).map (·.1)
    checks.map (·.2) = (FixedWindow.expected p [] (checks.map (·.1))).map .decision ∧
      (s.run cs).1.limiter.probe key = .count ((checks.map (·.1)).getLast?.map fun t =>
        (admitted.filter fun u =>
          FixedWindow.alignedStart p.window u = FixedWindow.alignedStart p.window t).length) ∧
      ∀ a : Nat, (checks.filter fun x =>
        x.2.admits && decide (a ≤ x.1.nanos ∧ x.1.nanos ≤ a + p.window.nanos)).length ≤ 2 * p.limit := by
  intro s checks admitted
  have hw : 0 < p.window.nanos := (Policy.validate_eq_ok.mp hp).2
  have hsorted := Session.keyChecks_sorted key s cs
  obtain ⟨hslots, st', hst', -, hfinal⟩ := FixedWindow.keyed.keyChecks_eq hp s l.counters cs rfl
    (KeyStore.Unique.of_slot?_eq_none hk) hrun
  dsimp only [FixedWindow.keyed] at hslots hfinal
  rw [hk] at hslots hfinal
  obtain ⟨hrule, hmatch⟩ := FixedWindow.run_eq_expected none [] (checks.map (·.1)) rfl (by simp)
    hsorted
  have hspec : checks.map (·.2) = (FixedWindow.expected p [] (checks.map (·.1))).map .decision := by
    rw [hslots]
    exact congrArg _ hrule
  have hadmitted := FixedWindow.admittedAfter_eq [] checks hspec
  refine ⟨hspec, ?_, fun a => ?_⟩
  · -- the stored counter matches the admitted checks at its last touch, the last check
    have htouched : (Slot.final p.window (fun now => ⟨FixedWindow.windowStart now p.window, 0⟩)
        (FixedWindow.count p) none (checks.map (·.1))).map (·.touched) = (checks.map (·.1)).getLast? := by
      cases hlast : (checks.map (·.1)).getLast? with
      | none =>
          rw [List.getLast?_eq_none_iff] at hlast
          rw [hlast]
          rfl
      | some t => exact Slot.final_touched none _ t (by simp) hsorted hlast
    rw [hst', FixedWindow.keyed.probe_eq, KeyStore.get?, hfinal]
    dsimp only [FixedWindow.keyed]
    rw [Probe.count.injEq, FixedWindow.count_of_matches hmatch htouched, hadmitted, List.nil_append]
  · refine FixedWindow.interval_admitted_le hw checks (fun a => ?_) a
    simpa using FixedWindow.window_admitted_le [] checks hspec (by simp) a

end Throttle

namespace Throttle

/-- Two checks of a key under two requests per ten seconds and, eight seconds on, a third
in the next window: the run spares the key, so its checks answer as the counting rule. -/
theorem fixedWindow_checks_exact_run :
    let p := Policy.ofSecs 2 10
    let s : Session := ⟨⟨Duration.ofSecs 1005⟩, .fixedWindow FixedWindow.standard⟩
    let cs := [Command.check "client" p, .check "client" p, .advance (Duration.ofSecs 8),
      .check "client" p]
    let checks := s.keyChecks "client" cs
    let admitted := (checks.filter (·.2.admits)).map (·.1)
    p.validate = .ok () ∧ FixedWindow.standard.counters.slot? "client" = none ∧
      Session.Spares "client" p s cs ∧
      checks.map (·.2) = (FixedWindow.expected p [] (checks.map (·.1))).map .decision ∧
      (s.run cs).1.limiter.probe "client" = .count ((checks.map (·.1)).getLast?.map fun t =>
        (admitted.filter fun u =>
          FixedWindow.alignedStart p.window u = FixedWindow.alignedStart p.window t).length) ∧
      ∀ a : Nat, (checks.filter fun x =>
        x.2.admits && decide (a ≤ x.1.nanos ∧ x.1.nanos ≤ a + p.window.nanos)).length ≤ 2 * p.limit := by
  have hp : (Policy.ofSecs 2 10).validate = .ok () := rfl
  have hk : FixedWindow.standard.counters.slot? "client" = none := rfl
  have hrun : Session.Spares "client" (Policy.ofSecs 2 10)
      ⟨⟨Duration.ofSecs 1005⟩, .fixedWindow FixedWindow.standard⟩
      [.check "client" (Policy.ofSecs 2 10), .check "client" (Policy.ofSecs 2 10),
        .advance (Duration.ofSecs 8), .check "client" (Policy.ofSecs 2 10)] :=
    ⟨rfl, rfl, rfl, rfl, trivial⟩
  exact ⟨hp, hk, hrun, fixedWindow_checks_exact hp hk hrun⟩

end Throttle
