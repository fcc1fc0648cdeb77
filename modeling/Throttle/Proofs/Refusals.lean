import Mathlib
import Throttle.Proofs.Counting

/-! # Refused checks leave no trace in the windows

A refused check still touches its key's state: a sliding log prunes its old entries, a
fixed-window counter moves to the current window, a bucket folds in its refill. In the two
window disciplines this changes nothing any later check can see: the checks of a key answer as
a counting rule over the instants admitted so far (`Rule.Answers`), and a refusal admits
nothing. So in a run that forgets no key and keeps each key's policy, deleting a refused check
leaves every other check's answer as it was (`window_refusal_inert`).

The token bucket is different: its refills are added in binary64, so a refill folded in at a
refused check and again later need not sum to the refill over the whole span. Deleting a
refused check can turn a later admission into a refusal
(`tokenBucket_refusal_changes_later_check`).
-/

namespace Throttle

namespace Session

variable {s : Session} {P : String → Policy} {v : String → List Duration → Duration → Decision}
  {pre post : List Command} {key : String}

/-- Where every key's checks answer as a counting rule of its own in every run that forgets no
key and keeps each key's policy, deleting a refused check from such a run leaves the other
checks of its key, and every check of the other keys, answering as before. -/
theorem refused_check_inert
    (hans : ∀ cs, Command.Steady P cs → ∀ k, Rule.Answers (v k) [] (s.keyChecks k cs))
    (hrun : Command.Steady P (pre ++ .check key (P key) :: post))
    (hden : ((s.run pre).1.step (.check key (P key))).2.admits = false) :
    (∀ k, k ≠ key → s.keyChecks k (pre ++ post) = s.keyChecks k (pre ++ .check key (P key) :: post)) ∧
      s.keyChecks key (pre ++ post) =
        (s.keyChecks key (pre ++ .check key (P key) :: post)).eraseIdx (s.keyChecks key pre).length := by
  have hdel : Command.Steady P (pre ++ post) := fun c hc =>
    hrun c (by simp only [List.mem_append, List.mem_cons] at hc ⊢; tauto)
  -- the refused check leaves the clock, so every later check happens at the same reading
  have hclock : ((s.run pre).1.step (.check key (P key))).1.clock = (s.run pre).1.clock := by
    rw [step_clock_eq]
    rfl
  have hreadings : ∀ k, (((s.run pre).1.step (.check key (P key))).1.keyChecks k post).map (·.1) =
      ((s.run pre).1.keyChecks k post).map (·.1) := by
    intro k
    rw [keyChecks_fst, keyChecks_fst, hclock]
  constructor
  · intro k hk
    have hskip : (s.run pre).1.keyChecks k (.check key (P key) :: post) =
        ((s.run pre).1.step (.check key (P key))).1.keyChecks k post := by
      simp [keyChecks, Command.checks, Ne.symm hk]
    have hfull := hans _ hrun k
    have hshort := hans _ hdel k
    rw [keyChecks_append, hskip, Rule.answers_append] at hfull
    rw [keyChecks_append, Rule.answers_append] at hshort
    rw [keyChecks_append, keyChecks_append, hskip,
      Rule.answers_unique hshort.2 hfull.2 (hreadings k).symm]
  · have hfull := hans _ hrun key
    have hshort := hans _ hdel key
    rw [keyChecks_check] at hfull ⊢
    rw [keyChecks_append] at hshort ⊢
    obtain ⟨hpre, hcheck, hafter⟩ := Rule.answers_split hfull
    rw [Rule.answers_append, Rule.admitted_of_answers hpre] at hshort
    simp only [List.nil_append] at hcheck hafter hshort
    -- a refusal admits nothing, so the rule goes on from the same admitted instants
    have hrefused : (v key ((s.keyChecks key pre).filter (·.2.admits) |>.map (·.1))
        ((s.run pre).1.clock.now)).allowed = false := by
      rw [← hden, hcheck]
      rfl
    rw [Rule.grant_of_refused hrefused] at hafter
    have hsame := Rule.answers_unique hshort.2 hafter (hreadings key).symm
    rw [hsame, List.eraseIdx_append_of_length_le le_rfl, Nat.sub_self, List.eraseIdx_cons_zero]

end Session

/-- In a sliding-log limiter whose cap on entries is at least every limit, and in a
fixed-window limiter, both keeping no key at first: in a run that forgets no key and checks
each key under one valid policy, deleting a refused check leaves the other checks of its key,
and every check of the other keys, answering as before. -/
theorem window_refusal_inert :
    (∀ {clock : Clock} {l : SlidingLog} {P : String → Policy} {pre post : List Command}
        {key : String},
      (∀ k, (P k).validate = .ok ()) → (∀ k, (P k).limit ≤ l.maxEntries) →
      (∀ k, l.logs.slot? k = none) → Command.Steady P (pre ++ .check key (P key) :: post) →
      (((⟨clock, .slidingLog l⟩ : Session).run pre).1.step (.check key (P key))).2.admits = false →
      (∀ k, k ≠ key → Session.keyChecks k ⟨clock, .slidingLog l⟩ (pre ++ post) =
          Session.keyChecks k ⟨clock, .slidingLog l⟩ (pre ++ .check key (P key) :: post)) ∧
        Session.keyChecks key ⟨clock, .slidingLog l⟩ (pre ++ post) =
          (Session.keyChecks key ⟨clock, .slidingLog l⟩ (pre ++ .check key (P key) :: post)).eraseIdx
            (Session.keyChecks key ⟨clock, .slidingLog l⟩ pre).length) ∧
    (∀ {clock : Clock} {l : FixedWindow} {P : String → Policy} {pre post : List Command}
        {key : String},
      (∀ k, (P k).validate = .ok ()) → (∀ k, l.counters.slot? k = none) →
      Command.Steady P (pre ++ .check key (P key) :: post) →
      (((⟨clock, .fixedWindow l⟩ : Session).run pre).1.step (.check key (P key))).2.admits = false →
      (∀ k, k ≠ key → Session.keyChecks k ⟨clock, .fixedWindow l⟩ (pre ++ post) =
          Session.keyChecks k ⟨clock, .fixedWindow l⟩ (pre ++ .check key (P key) :: post)) ∧
        Session.keyChecks key ⟨clock, .fixedWindow l⟩ (pre ++ post) =
          (Session.keyChecks key ⟨clock, .fixedWindow l⟩ (pre ++ .check key (P key) :: post)).eraseIdx
            (Session.keyChecks key ⟨clock, .fixedWindow l⟩ pre).length) := by
  constructor
  · intro clock l P pre post key hP hM hk hrun hden
    -- each key's checks answer as the sliding-window rule under its own policy
    exact Session.refused_check_inert (fun cs hcs k => (SlidingLog.keyChecks_answer (hP k) (hM k) (hk k)
      ((SlidingLog.keyed l.maxEntries).spares P k _ l.logs cs rfl hcs)).2) hrun hden
  · intro clock l P pre post key hP hk hrun hden
    exact Session.refused_check_inert (fun cs hcs k => (FixedWindow.keyChecks_answer (hP k) (hk k)
      (FixedWindow.keyed.spares P k _ l.counters cs rfl hcs)).2) hrun hden

/-- Two keys under one request per 10 s: a second check of "a" at once is refused, and
deleting it changes no other answer, in a sliding log from 100 s and in fixed windows from
105 s. -/
theorem window_refusal_inert_two_keys :
    let p := Policy.ofSecs 1 10
    let pre := [Command.check "a" p, .check "b" p]
    let s : Session := ⟨⟨Duration.ofSecs 100⟩, .slidingLog SlidingLog.standard⟩
    let post := [Command.advance (Duration.ofSecs 10), .check "a" p, .check "b" p]
    let f : Session := ⟨⟨Duration.ofSecs 105⟩, .fixedWindow FixedWindow.standard⟩
    let post' := [Command.advance (Duration.ofSecs 5), .check "a" p, .check "b" p]
    ((∀ k, k ≠ "a" → s.keyChecks k (pre ++ post) = s.keyChecks k (pre ++ .check "a" p :: post)) ∧
        s.keyChecks "a" (pre ++ post) =
          (s.keyChecks "a" (pre ++ .check "a" p :: post)).eraseIdx (s.keyChecks "a" pre).length) ∧
      ((∀ k, k ≠ "a" → f.keyChecks k (pre ++ post') = f.keyChecks k (pre ++ .check "a" p :: post')) ∧
        f.keyChecks "a" (pre ++ post') =
          (f.keyChecks "a" (pre ++ .check "a" p :: post')).eraseIdx (f.keyChecks "a" pre).length) := by
  intro p pre s post f post'
  have hp : p.validate = .ok () := rfl
  have hlen : ∀ t : Session, t.clock.checkTimes "a" pre = [t.clock.now] →
      (t.keyChecks "a" pre).length = 1 := by
    intro t ht
    rw [← List.length_map (·.1), Session.keyChecks_fst, ht]
    rfl
  constructor
  · let D := SlidingLog.keyed SlidingLog.standard.maxEntries
    have hrun : Command.Steady (fun _ => p) (pre ++ .check "a" p :: post) := by
      simp [pre, post, Command.Steady, Command.forgets]
    have hk : SlidingLog.standard.logs.slot? "a" = none := rfl
    have htimes : s.clock.checkTimes "a" (pre ++ .check "a" p :: post) =
        [Duration.ofSecs 100, Duration.ofSecs 100, Duration.ofSecs 110] := by
      decide +kernel
    have hslot : Slot.run (D.hold p) (D.init p) (D.step p) none
        [Duration.ofSecs 100, Duration.ofSecs 100, Duration.ofSecs 110] =
        [.allow SlidingLog.name 1 0 (Duration.ofSecs 110),
          .deny SlidingLog.name 1 (Duration.ofSecs 110) (Duration.ofSecs 10),
          .allow SlidingLog.name 1 0 (Duration.ofSecs 120)] := by
      decide +kernel
    have hchecks := D.keyChecks_fresh (s := s) hp rfl hk hrun
    rw [htimes, hslot] at hchecks
    -- the check between the others is the refusal
    have hden : ((s.run pre).1.step (.check "a" p)).2.admits = false := by
      have h := Session.keyChecks_check_getElem? "a" s pre post p
      rw [hchecks, hlen s (by decide +kernel)] at h
      simp only [List.zip_cons_cons, List.map_cons, List.getElem?_cons_succ, List.getElem?_cons_zero,
        Option.some.injEq, Prod.mk.injEq] at h
      rw [← h.2]
      rfl
    have hM : ∀ _ : String, p.limit ≤ SlidingLog.standard.maxEntries := fun _ => by decide
    have hfresh : ∀ k, SlidingLog.standard.logs.slot? k = none := fun _ => rfl
    -- stated apart from the goal, whose let-bound runs the elaborator would otherwise unfold
    have h := window_refusal_inert.1 (fun _ => hp) hM hfresh hrun hden
    exact h
  · have hrun : Command.Steady (fun _ => p) (pre ++ .check "a" p :: post') := by
      simp [pre, post', Command.Steady, Command.forgets]
    have hk : FixedWindow.standard.counters.slot? "a" = none := rfl
    have htimes : f.clock.checkTimes "a" (pre ++ .check "a" p :: post') =
        [Duration.ofSecs 105, Duration.ofSecs 105, Duration.ofSecs 110] := by
      decide +kernel
    have hslot : Slot.run (FixedWindow.keyed.hold p) (FixedWindow.keyed.init p)
        (FixedWindow.keyed.step p) none
        [Duration.ofSecs 105, Duration.ofSecs 105, Duration.ofSecs 110] =
        [.allow FixedWindow.name 1 0 (Duration.ofSecs 110),
          .deny FixedWindow.name 1 (Duration.ofSecs 110) (Duration.ofSecs 5),
          .allow FixedWindow.name 1 0 (Duration.ofSecs 120)] := by
      decide +kernel
    have hchecks := FixedWindow.keyed.keyChecks_fresh (s := f) hp rfl hk hrun
    rw [htimes, hslot] at hchecks
    have hden : ((f.run pre).1.step (.check "a" p)).2.admits = false := by
      have h := Session.keyChecks_check_getElem? "a" f pre post' p
      rw [hchecks, hlen f (by decide +kernel)] at h
      simp only [List.zip_cons_cons, List.map_cons, List.getElem?_cons_succ, List.getElem?_cons_zero,
        Option.some.injEq, Prod.mk.injEq] at h
      rw [← h.2]
      rfl
    have hfresh : ∀ k, FixedWindow.standard.counters.slot? k = none := fun _ => rfl
    have h := window_refusal_inert.2 (fun _ => hp) hfresh hrun hden
    exact h

/-- A token bucket does not forget its refused checks. With one request per 7 s and twice the
limit as capacity, a key checked at 0 s and 1 s is refused at 4 s and admitted at 7 s; delete
the refusal and the check at 7 s is refused: the refills from 1 s to 4 s and from 4 s to 7 s,
added in binary64, reach one token, and the refill from 1 s to 7 s falls just short. -/
theorem tokenBucket_refusal_changes_later_check :
    let p := Policy.ofSecs 1 7
    let s : Session := ⟨⟨Duration.ofSecs 0⟩, .tokenBucket TokenBucket.standard⟩
    let pre := [Command.check "k" p, .advance (Duration.ofSecs 1), .check "k" p,
      .advance (Duration.ofSecs 3)]
    let post := [Command.advance (Duration.ofSecs 3), .check "k" p]
    ((s.run pre).1.step (.check "k" p)).2.admits = false ∧
      (s.keyChecks "k" (pre ++ .check "k" p :: post)).map (·.2.admits) = [true, true, false, true] ∧
      (s.keyChecks "k" (pre ++ post)).map (·.2.admits) = [true, true, false] := by
  intro p s pre post
  let D := TokenBucket.keyed 2
  have hp : p.validate = .ok () := rfl
  have hk : TokenBucket.standard.buckets.slot? "k" = none := rfl
  have hfull : (s.keyChecks "k" (pre ++ .check "k" p :: post)).map (·.2.admits) =
      [true, true, false, true] := by
    have hrun : Command.Steady (fun _ => p) (pre ++ .check "k" p :: post) := by
      simp [pre, post, Command.Steady, Command.forgets]
    rw [D.keyChecks_fresh hp rfl hk hrun]
    decide +kernel
  have hshort : (s.keyChecks "k" (pre ++ post)).map (·.2.admits) = [true, true, false] := by
    have hrun : Command.Steady (fun _ => p) (pre ++ post) := by
      simp [pre, post, Command.Steady, Command.forgets]
    rw [D.keyChecks_fresh hp rfl hk hrun]
    decide +kernel
  have hlen : (s.keyChecks "k" pre).length = 2 := by
    rw [← List.length_map (·.1), Session.keyChecks_fst]
    decide +kernel
  refine ⟨?_, hfull, hshort⟩
  -- the third of the key's checks is the one deleted
  have hthird := Session.keyChecks_check_getElem? "k" s pre post p
  rw [hlen] at hthird
  have h := congrArg (·[2]?) hfull
  simp only [List.getElem?_map, hthird] at h
  simpa using h
end Throttle
