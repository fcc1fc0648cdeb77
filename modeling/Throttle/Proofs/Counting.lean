import Mathlib
import Throttle.Proofs.SlidingLog
import Throttle.Proofs.Eviction

/-! # Counting rules

Both window disciplines answer a key's checks by a *counting rule*: the decision for a check
at `t` depends only on `t` and the instants admitted before it, and an admitted check adds its
instant. `Rule.decisions` runs a rule over a list of check instants; `SlidingLog.expected` and
`FixedWindow.expected` are this run for their own rules.

A refusal adds nothing, so the run goes on from the same admitted instants: leaving out a
refused check changes no other decision, and a stretch of refusals ends at the first instant
the rule admits.

In a session, a key's checks are its clock readings, which only clock moves decide
(`Clock.checkTimes`), paired with the decisions of its slot there; for a fresh key of a window
discipline these are the decisions of the counting rule.
-/

namespace Throttle

namespace Rule

variable (v : List Duration → Duration → Decision)

/-- The instants admitted after `adm` once the rule has decided a check at `t`. -/
def grant (adm : List Duration) (t : Duration) : List Duration :=
  if (v adm t).allowed then adm ++ [t] else adm

/-- The rule's decisions for checks at the instants `ts`, after the admitted instants `adm`. -/
def decisions : List Duration → List Duration → List Decision
  | _, [] => []
  | adm, t :: ts => v adm t :: decisions (grant v adm t) ts

/-- The instants admitted after checks at `ts`, starting from `adm`. -/
def admitted : List Duration → List Duration → List Duration
  | adm, [] => adm
  | adm, t :: ts => admitted (grant v adm t) ts

/-- Checks, as clock readings and replies, that answer as the rule after `adm`. -/
def Answers (adm : List Duration) (xs : List (Duration × Reply)) : Prop :=
  xs.map (·.2) = (decisions v adm (xs.map (·.1))).map .decision

variable {v}

theorem grant_of_refused {adm : List Duration} {t : Duration} (h : (v adm t).allowed = false) :
    grant v adm t = adm := by
  simp [grant, h]

theorem decisions_append (adm : List Duration) :
    ∀ ts us : List Duration,
      decisions v adm (ts ++ us) = decisions v adm ts ++ decisions v (admitted v adm ts) us
  | [], _ => rfl
  | t :: ts, us => by
      simp only [List.cons_append, decisions, admitted, List.cons.injEq, true_and]
      exact decisions_append _ ts us

@[simp] theorem length_decisions :
    ∀ (adm ts : List Duration), (decisions v adm ts).length = ts.length
  | _, [] => rfl
  | adm, t :: ts => by simp [decisions, length_decisions _ ts]

@[simp] theorem answers_nil (adm : List Duration) : Answers v adm [] := rfl

theorem answers_cons {adm : List Duration} {t : Duration} {r : Reply}
    {xs : List (Duration × Reply)} :
    Answers v adm ((t, r) :: xs) ↔ r = .decision (v adm t) ∧ Answers v (grant v adm t) xs := by
  simp [Answers, decisions]

theorem answers_append {adm : List Duration} {xs ys : List (Duration × Reply)} :
    Answers v adm (xs ++ ys) ↔
      Answers v adm xs ∧ Answers v (admitted v adm (xs.map (·.1))) ys := by
  unfold Answers
  rw [List.map_append, List.map_append, decisions_append, List.map_append]
  constructor
  · intro h
    exact List.append_inj h (by simp)
  · rintro ⟨h₁, h₂⟩
    rw [h₁, h₂]

/-- Checks that answer as the rule after the same instants, at the same readings, are the same
checks. -/
theorem answers_unique {adm : List Duration} {xs ys : List (Duration × Reply)} (hx : Answers v adm xs)
    (hy : Answers v adm ys) (h : xs.map (·.1) = ys.map (·.1)) : xs = ys := by
  have hsnd : xs.map (·.2) = ys.map (·.2) := by
    rw [hx, hy, h]
  calc xs = (xs.map (·.1)).zip (xs.map (·.2)) := by simp [List.zip_map']
    _ = (ys.map (·.1)).zip (ys.map (·.2)) := by rw [h, hsnd]
    _ = ys := by simp [List.zip_map']

/-- Along checks that answer as the rule, the admitted instants grow by the admitted checks. -/
theorem admitted_of_answers :
    ∀ {adm : List Duration} {xs : List (Duration × Reply)}, Answers v adm xs →
      admitted v adm (xs.map (·.1)) = adm ++ (xs.filter (·.2.admits)).map (·.1)
  | _, [], _ => by simp [admitted]
  | adm, (t, r) :: xs, h => by
      obtain ⟨rfl, hrest⟩ := answers_cons.mp h
      rw [List.map_cons, admitted, admitted_of_answers hrest]
      by_cases hallowed : (v adm t).allowed <;> simp [grant, hallowed, Reply.admits]

/-- Checks that answer as the rule, split at one check: the earlier ones answer from `adm`,
the check itself from the instants they admitted, and the later ones from those it leaves. -/
theorem answers_split {adm : List Duration} {before after : List (Duration × Reply)}
    {t : Duration} {r : Reply} (h : Answers v adm (before ++ (t, r) :: after)) :
    let adm' := adm ++ (before.filter (·.2.admits)).map (·.1)
    Answers v adm before ∧ r = .decision (v adm' t) ∧ Answers v (grant v adm' t) after := by
  intro adm'
  obtain ⟨hbefore, hrest⟩ := answers_append.mp h
  rw [admitted_of_answers hbefore] at hrest
  exact ⟨hbefore, answers_cons.mp hrest⟩

/-- A stretch of refusals that the rule ends at a bound: when every check from `t` to before
`T` is refused and every check from `T` on admitted, then of checks in order from `t` on,
those before `T` are refused and the first one at or after `T` is admitted. The admitted
instants do not change along the refusals. -/
theorem refusals_until {adm : List Duration} {t : Duration} {T : Nat}
    (hrefuse : ∀ u : Duration, t ≤ u → u.nanos < T → (v adm u).allowed = false)
    (hallow : ∀ u : Duration, T ≤ u.nanos → (v adm u).allowed = true) :
    ∀ xs : List (Duration × Reply), Answers v adm xs → (∀ x ∈ xs, t ≤ x.1) →
      (xs.map (·.1)).Pairwise (· ≤ ·) →
      (∀ x ∈ xs, x.1.nanos < T → x.2.admits = false) ∧
        ∀ mid x rest, xs = mid ++ x :: rest → (∀ y ∈ mid, y.1.nanos < T) → T ≤ x.1.nanos →
          x.2.admits = true
  | [], _, _, _ => ⟨by simp, fun mid x rest h => by simp at h⟩
  | (u, r) :: xs, h, hafter, hsorted => by
      obtain ⟨rfl, hrest⟩ := answers_cons.mp h
      have hu : t ≤ u := hafter (u, _) List.mem_cons_self
      rw [List.map_cons, List.pairwise_cons] at hsorted
      by_cases huT : u.nanos < T
      · -- a refusal: the admitted instants stay, and the rest answers from them
        have hden := hrefuse u hu huT
        rw [grant_of_refused hden] at hrest
        obtain ⟨ih₁, ih₂⟩ := refusals_until hrefuse hallow xs hrest
          (fun x hx => hafter x (List.mem_cons_of_mem _ hx)) hsorted.2
        refine ⟨fun x hx hxT => ?_, fun mid x rest hxs hmid hxT => ?_⟩
        · rcases List.mem_cons.mp hx with rfl | hx
          · simp [Reply.admits, hden]
          · exact ih₁ x hx hxT
        · cases mid with
          | nil =>
              obtain rfl := (List.cons.inj hxs).1
              exact absurd hxT (by simpa using huT)
          | cons y mid =>
              obtain ⟨-, hxs⟩ := List.cons.inj hxs
              exact ih₂ mid x rest hxs (fun y hy => hmid y (List.mem_cons_of_mem _ hy)) hxT
      · -- the first check at or after `T`: every later one is at or after it too
        have hadm := hallow u (by omega)
        refine ⟨fun x hx hxT => ?_, fun mid x rest hxs hmid hxT => ?_⟩
        · rcases List.mem_cons.mp hx with rfl | hx
          · exact absurd hxT (by simpa using huT)
          · have := hsorted.1 x.1 (List.mem_map.mpr ⟨x, hx, rfl⟩)
            rw [Duration.le_iff_nanos] at this
            dsimp only at this
            omega
        · cases mid with
          | nil =>
              obtain rfl := (List.cons.inj hxs).1
              simp [Reply.admits, hadm]
          | cons y mid =>
              obtain ⟨rfl, -⟩ := List.cons.inj hxs
              exact absurd (hmid _ List.mem_cons_self) huT

end Rule

theorem SlidingLog.expected_eq (p : Policy) : SlidingLog.expected p = Rule.decisions (verdict p) := by
  funext adm ts
  induction ts generalizing adm with
  | nil => rfl
  | cons t ts ih => simp [expected, Rule.decisions, Rule.grant, ih]

theorem FixedWindow.expected_eq (p : Policy) : FixedWindow.expected p = Rule.decisions (verdict p) := by
  funext adm ts
  induction ts generalizing adm with
  | nil => rfl
  | cons t ts ih => simp [expected, Rule.decisions, Rule.grant, admitAt, ih]

/-! ## A key's checks in a session -/

/-- The clock after a command: only moves of the clock move it. -/
def Clock.after (c : Clock) : Command → Clock
  | .advance d => (c.advance? d).getD c
  | .advanceTo t => c.advanceTo t
  | _ => c

/-- The clock readings at the checks of `key` in a run from the clock `c`. -/
def Clock.checkTimes (key : String) : Clock → List Command → List Duration
  | _, [] => []
  | c, cmd :: cs =>
    if cmd.checks key then c.now :: checkTimes key (c.after cmd) cs else checkTimes key (c.after cmd) cs

/-- A command that may make a limiter forget keys: a reset, an eviction or a sweep. -/
def Command.forgets : Command → Bool
  | .reset _ | .evictIdle _ | .sweep _ _ => true
  | _ => false

/-- No command of the run forgets keys, and each check is under the policy that `P` gives its
key. -/
def Command.Steady (P : String → Policy) (cs : List Command) : Prop :=
  ∀ c ∈ cs, c.forgets = false ∧ ∀ k q, c = .check k q → q = P k

namespace Session

theorem step_clock_eq (s : Session) (c : Command) : (s.step c).1.clock = s.clock.after c := by
  rw [step_clock]
  cases c <;> rfl

/-- A key's checks happen at the readings the clock alone gives. -/
theorem keyChecks_fst (key : String) :
    ∀ (s : Session) (cs : List Command), (s.keyChecks key cs).map (·.1) = s.clock.checkTimes key cs
  | _, [] => rfl
  | s, c :: cs => by
      have ih := keyChecks_fst key (s.step c).1 cs
      rw [step_clock_eq] at ih
      unfold keyChecks Clock.checkTimes
      split <;> simp [ih]

theorem keyChecks_append (key : String) :
    ∀ (s : Session) (pre post : List Command),
      s.keyChecks key (pre ++ post) = s.keyChecks key pre ++ (s.run pre).1.keyChecks key post
  | _, [], _ => rfl
  | s, c :: pre, post => by
      have ih := keyChecks_append key (s.step c).1 pre post
      simp only [List.cons_append, keyChecks, run_cons_fst, ih]
      split <;> rfl

/-- A check of `key` in the middle of a run answers at the clock the run has reached. -/
theorem keyChecks_check (key : String) (s : Session) (pre post : List Command) (p : Policy) :
    s.keyChecks key (pre ++ .check key p :: post) =
      s.keyChecks key pre ++ ((s.run pre).1.clock.now, ((s.run pre).1.step (.check key p)).2) ::
        ((s.run pre).1.step (.check key p)).1.keyChecks key post := by
  rw [keyChecks_append]
  simp [keyChecks, Command.checks]

/-- The reply of a check of `key` stands among the key's checks right after those before it. -/
theorem keyChecks_check_getElem? (key : String) (s : Session) (pre post : List Command) (p : Policy) :
    (s.keyChecks key (pre ++ .check key p :: post))[(s.keyChecks key pre).length]? =
      some ((s.run pre).1.clock.now, ((s.run pre).1.step (.check key p)).2) := by
  rw [keyChecks_check]
  simp

end Session

namespace Keyed

variable {σ : Type} (D : Keyed σ)

/-- A check leaves a store of the discipline, with every other key's slot as it was. -/
theorem step_check_rebuild {s : Session} {st : KeyStore σ} (hs : s.limiter = D.rebuild st)
    (k : String) (q : Policy) :
    ∃ st', (s.step (.check k q)).1.limiter = D.rebuild st' ∧ ∀ key, k ≠ key → st'.slot? key = st.slot? key := by
  cases hq : q.validate with
  | ok u =>
      refine ⟨(st.update k s.clock.now (D.hold q) (D.init q) (D.step q)).1,
        by simp [Session.step, hs, D.check_ok _ _ _ _ hq], fun key hk => ?_⟩
      simp [KeyStore.slot?_update, hk]
  | error e => exact ⟨st, by simp [Session.step, hs, D.check_error _ _ _ _ _ hq], fun _ _ => rfl⟩

/-- A command that checks nothing and forgets nothing leaves the store as it is. -/
theorem step_keeps {s : Session} {st : KeyStore σ} (hs : s.limiter = D.rebuild st) {c : Command}
    (hc : c.forgets = false) (hck : ∀ k q, c ≠ .check k q) : (s.step c).1.limiter = D.rebuild st := by
  cases c with
  | check k q => exact absurd rfl (hck k q)
  | checkWithPolicies k ps => simp [Session.step, hs, D.checkWithPolicies_eq]
  | advance d =>
      simp only [Session.step]
      split <;> exact hs
  | reset _ | evictIdle _ | sweep _ _ => simp [Command.forgets] at hc
  | advanceTo _ | keyCount | probe _ | now | describe => exact hs

/-- A run that forgets no key and checks each key under the policy that `P` gives it spares
every key. -/
theorem spares (P : String → Policy) (key : String) :
    ∀ (s : Session) (st : KeyStore σ) (cs : List Command), s.limiter = D.rebuild st →
      Command.Steady P cs → s.Spares key (P key) cs
  | _, _, [], _, _ => trivial
  | s, st, c :: cs, hs, hcs => by
      have hrest : Command.Steady P cs := fun c' hc' => hcs c' (List.mem_cons_of_mem _ hc')
      obtain ⟨hforget, hpolicy⟩ := hcs c List.mem_cons_self
      by_cases hchk : ∃ k q, c = .check k q
      · obtain ⟨k, q, rfl⟩ := hchk
        obtain rfl := hpolicy k q rfl
        obtain ⟨st', hs', hslot⟩ := D.step_check_rebuild hs k (P k)
        refine ⟨?_, spares P key _ st' cs hs' hrest⟩
        by_cases hk : k = key
        · subst hk
          simp [Command.checks]
        · -- another key's check leaves this key's slot, hence its probe
          simp [Command.checks, hk, hs', hs, D.probe_eq, KeyStore.get?, hslot key hk]
      · have hl := D.step_keeps hs hforget fun k q h => hchk ⟨k, q, h⟩
        have hck : c.checks key = false := by
          cases c <;> simp_all [Command.checks]
        exact ⟨by simp [hck, hl, hs], spares P key _ st cs hl hrest⟩

end Keyed

/-- In a run that spares the key, its checks are its clock readings paired with the decisions
of its slot visited there. -/
theorem Keyed.keyChecks_zip {σ : Type} (D : Keyed σ) {s : Session} {st : KeyStore σ} {key : String}
    {p : Policy} {cs : List Command} (hp : p.validate = .ok ()) (hs : s.limiter = D.rebuild st)
    (hu : st.Unique key) (hrun : s.Spares key p cs) :
    s.keyChecks key cs = (s.clock.checkTimes key cs).zip
      ((Slot.run (D.hold p) (D.init p) (D.step p) (st.slot? key) (s.clock.checkTimes key cs)).map
        .decision) := by
  have hsnd := (D.keyChecks_eq hp s st cs hs hu hrun).1
  rw [Session.keyChecks_fst] at hsnd
  calc s.keyChecks key cs = ((s.keyChecks key cs).map (·.1)).zip ((s.keyChecks key cs).map (·.2)) := by
        simp [List.zip_map']
    _ = _ := by rw [hsnd, Session.keyChecks_fst]

/-- The checks of a key that the store does not hold yet, in a run that forgets no key and
checks each key under the policy `P` gives it: its clock readings, paired with the decisions of
a new slot visited at each. -/
theorem Keyed.keyChecks_fresh {σ : Type} (D : Keyed σ) {s : Session} {st : KeyStore σ} {key : String}
    {P : String → Policy} {cs : List Command} (hp : (P key).validate = .ok ())
    (hs : s.limiter = D.rebuild st) (hk : st.slot? key = none) (hrun : Command.Steady P cs) :
    s.keyChecks key cs = (s.clock.checkTimes key cs).zip
      ((Slot.run (D.hold (P key)) (D.init (P key)) (D.step (P key)) none
        (s.clock.checkTimes key cs)).map .decision) := by
  rw [D.keyChecks_zip hp hs (KeyStore.Unique.of_slot?_eq_none hk) (D.spares P key s st cs hs hrun), hk]

/-- The checks of a fresh key of a sliding-log limiter whose cap is at least the limit, in a run
that spares it, are in order and answer as the counting rule. -/
theorem SlidingLog.keyChecks_answer {clock : Clock} {l : SlidingLog} {key : String} {p : Policy}
    {cs : List Command} (hp : p.validate = .ok ()) (hM : p.limit ≤ l.maxEntries)
    (hk : l.logs.slot? key = none) (hrun : Session.Spares key p ⟨clock, .slidingLog l⟩ cs) :
    ((Session.keyChecks key ⟨clock, .slidingLog l⟩ cs).map (·.1)).Pairwise (· ≤ ·) ∧
      Rule.Answers (verdict p) [] (Session.keyChecks key ⟨clock, .slidingLog l⟩ cs) := by
  have hw : 0 < p.window.nanos := (Policy.validate_eq_ok.mp hp).2
  have hsorted := Session.keyChecks_sorted key ⟨clock, .slidingLog l⟩ cs
  have hslots := ((SlidingLog.keyed l.maxEntries).keyChecks_eq hp _ l.logs cs rfl
    (KeyStore.Unique.of_slot?_eq_none hk) hrun).1
  refine ⟨hsorted, ?_⟩
  unfold Rule.Answers
  rw [hslots, hk, ← expected_eq]
  exact congrArg _ (run_eq_expected hM hw none [] _ rfl (by simp) (by simpa using hsorted))

/-- The checks of a fresh key of a fixed-window limiter, in a run that spares it, are in order
and answer as the counting rule. -/
theorem FixedWindow.keyChecks_answer {clock : Clock} {l : FixedWindow} {key : String} {p : Policy}
    {cs : List Command} (hp : p.validate = .ok ()) (hk : l.counters.slot? key = none)
    (hrun : Session.Spares key p ⟨clock, .fixedWindow l⟩ cs) :
    ((Session.keyChecks key ⟨clock, .fixedWindow l⟩ cs).map (·.1)).Pairwise (· ≤ ·) ∧
      Rule.Answers (verdict p) [] (Session.keyChecks key ⟨clock, .fixedWindow l⟩ cs) := by
  have hsorted := Session.keyChecks_sorted key ⟨clock, .fixedWindow l⟩ cs
  have hslots := (FixedWindow.keyed.keyChecks_eq hp _ l.counters cs rfl
    (KeyStore.Unique.of_slot?_eq_none hk) hrun).1
  refine ⟨hsorted, ?_⟩
  unfold Rule.Answers
  rw [hslots, hk, ← expected_eq]
  exact congrArg _ (run_eq_expected none [] _ rfl (by simp) hsorted).1

end Throttle
