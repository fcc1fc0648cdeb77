import Mathlib
import Throttle.Session
import Throttle.Proofs.Store

/-! # Sessions seen from one key

A limiter of a single discipline keeps its per-key state in one key store. `Keyed`
records how such a limiter is rebuilt from its store and what a check under a policy does
to the store; the three disciplines are instances of it.

In a session over such a limiter, the checks of one key answer exactly as the key's own
slot, visited at each of their clock readings, would answer (`Keyed.keyChecks_eq`),
provided the run checks the key under one policy and never forgets or evicts it
(`Session.Spares`). Everything else that happens in the run (other keys, clock moves,
evictions that spare the key) shows only through the clock readings, which never
decrease.
-/

namespace Throttle

variable {σ : Type}

/-- A limiter that keeps its per-key state in one key store: how it is rebuilt from a
store, what a check under a policy does to that store, and how a probe shows a key. -/
structure Keyed (σ : Type) where
  rebuild : KeyStore σ → Limiter
  hold : Policy → Duration
  init : Policy → Duration → σ
  step : Policy → σ → Duration → σ × Decision
  view : Option σ → Probe
  check_ok : ∀ st clock key p, p.validate = .ok () →
    (rebuild st).check clock key p =
      (rebuild (st.update key clock (hold p) (init p) (step p)).1,
        .ok (st.update key clock (hold p) (init p) (step p)).2)
  check_error : ∀ st clock key p e, p.validate = .error e →
    (rebuild st).check clock key p = (rebuild st, .error e)
  checkWithPolicies_eq : ∀ st clock key ps, (rebuild st).checkWithPolicies clock key ps = none
  reset_eq : ∀ st key, (rebuild st).reset key = rebuild (st.erase key)
  evictIdle_eq : ∀ st now ttl,
    (rebuild st).evictIdle now ttl = (rebuild (st.evictIdle now ttl).1, (st.evictIdle now ttl).2)
  probe_eq : ∀ st key, (rebuild st).probe key = view (st.get? key)
  view_some_ne_none : ∀ x, view (some x) ≠ view none

namespace Command

/-- Whether the command checks `key`. -/
def checks (key : String) : Command → Bool
  | .check k _ => k == key
  | _ => false

end Command

/-- Whether the reply is a decision that admits the request. -/
def Reply.admits : Reply → Bool
  | .decision d => d.allowed
  | _ => false

namespace Session

/-- The checks of `key` in a run: the clock reading at each and its reply, in order. -/
def keyChecks (key : String) : Session → List Command → List (Duration × Reply)
  | _, [] => []
  | s, c :: cs =>
    if c.checks key then (s.clock.now, (s.step c).2) :: (s.step c).1.keyChecks key cs
    else (s.step c).1.keyChecks key cs

/-- The run checks `key` under `p` only, and no other step changes what the limiter holds
for `key`: the key is never forgotten or evicted. -/
def Spares (key : String) (p : Policy) : Session → List Command → Prop
  | _, [] => True
  | s, c :: cs =>
    (if c.checks key then c = .check key p
      else (s.step c).1.limiter.probe key = s.limiter.probe key) ∧
    Spares key p (s.step c).1 cs

/-- No step moves the clock back. -/
theorem now_le_step (s : Session) (c : Command) : s.clock.now ≤ (s.step c).1.clock.now := by
  cases c with
  | advance d =>
      simp only [step]
      split
      · exact Clock.now_le_of_advance? ‹_›
      · exact le_rfl
  | advanceTo t => exact Clock.now_le_advanceTo s.clock t
  | checkWithPolicies key ps =>
      simp only [step]
      split <;> exact le_rfl
  | sweep interval ttl =>
      simp only [step]
      split <;> exact le_rfl
  | _ => exact le_rfl

theorem now_le_of_mem_keyChecks {key : String} :
    ∀ (s : Session) (cs : List Command), ∀ x ∈ s.keyChecks key cs, s.clock.now ≤ x.1
  | _, [], _, hx => nomatch hx
  | s, c :: cs, x, hx => by
      have hrest : ∀ y ∈ (s.step c).1.keyChecks key cs, s.clock.now ≤ y.1 := fun y hy =>
        le_trans (now_le_step s c) (now_le_of_mem_keyChecks _ cs y hy)
      unfold keyChecks at hx
      split at hx
      · rcases List.mem_cons.mp hx with rfl | hx
        · exact le_rfl
        · exact hrest x hx
      · exact hrest x hx

/-- A key's checks happen at clock readings that never decrease. -/
theorem keyChecks_sorted (key : String) :
    ∀ (s : Session) (cs : List Command), ((s.keyChecks key cs).map (·.1)).Pairwise (· ≤ ·)
  | _, [] => List.Pairwise.nil
  | s, c :: cs => by
      have hrest := keyChecks_sorted key (s.step c).1 cs
      unfold keyChecks
      split
      · refine List.Pairwise.cons (fun t ht => ?_) hrest
        obtain ⟨x, hx, rfl⟩ := List.mem_map.mp ht
        exact le_trans (now_le_step s c) (now_le_of_mem_keyChecks _ cs x hx)
      · exact hrest

end Session

namespace Keyed

variable (D : Keyed σ) {s : Session} {st : KeyStore σ} {key : String}

/-- A store operation that leaves a key either its slot or none leaves it its slot when
the probe of the key does not change. -/
theorem slot?_eq_of_probe {st' : KeyStore σ}
    (h : st'.slot? key = none ∨ st'.slot? key = st.slot? key)
    (hprobe : (D.rebuild st').probe key = (D.rebuild st).probe key) :
    st'.slot? key = st.slot? key := by
  rcases h with h | h
  · rw [D.probe_eq, D.probe_eq, KeyStore.get?, KeyStore.get?, h] at hprobe
    cases hs : st.slot? key with
    | none => exact h
    | some slot =>
        rw [hs] at hprobe
        exact absurd hprobe.symm (D.view_some_ne_none _)
  · exact h

/-- A step that is no check of `key` and leaves its probe as it was keeps the key's slot,
and the store stays one with a single slot for the key. -/
theorem step_frame {c : Command} (hs : s.limiter = D.rebuild st) (hu : st.Unique key)
    (hc : c.checks key = false)
    (hprobe : (s.step c).1.limiter.probe key = s.limiter.probe key) :
    ∃ st', (s.step c).1.limiter = D.rebuild st' ∧ st'.Unique key ∧ st'.slot? key = st.slot? key := by
  cases c with
  | check k q =>
      have hk : k ≠ key := by simpa [Command.checks] using hc
      cases hq : q.validate with
      | ok u =>
          cases u
          refine ⟨(st.update k s.clock.now (D.hold q) (D.init q) (D.step q)).1,
            by simp [Session.step, hs, D.check_ok _ _ _ _ hq], hu.update .., ?_⟩
          simp [KeyStore.slot?_update, hk]
      | error e => exact ⟨st, by simp [Session.step, hs, D.check_error _ _ _ _ _ hq], hu, rfl⟩
  | checkWithPolicies k ps =>
      exact ⟨st, by simp [Session.step, hs, D.checkWithPolicies_eq], hu, rfl⟩
  | reset k =>
      refine ⟨st.erase k, by simp [Session.step, hs, D.reset_eq], hu.erase k, ?_⟩
      simp only [Session.step, hs, D.reset_eq] at hprobe
      refine D.slot?_eq_of_probe ?_ hprobe
      rw [KeyStore.slot?_erase k hu]
      split <;> simp
  | evictIdle ttl =>
      refine ⟨(st.evictIdle s.clock.now ttl).1, by simp [Session.step, hs, D.evictIdle_eq],
        hu.evictIdle .., ?_⟩
      simp only [Session.step, hs, D.evictIdle_eq] at hprobe
      refine D.slot?_eq_of_probe ?_ hprobe
      rw [KeyStore.slot?_evictIdle _ _ hu]
      cases st.slot? key <;> simp [Option.filter]
  | sweep interval ttl =>
      by_cases hi : interval.nanos = 0
      · exact ⟨st, by simp [Session.step, hs, hi], hu, rfl⟩
      · refine ⟨(st.evictIdle s.clock.now ttl).1, by simp [Session.step, hs, hi, D.evictIdle_eq],
          hu.evictIdle .., ?_⟩
        simp only [Session.step, hs, hi, if_false, D.evictIdle_eq] at hprobe
        refine D.slot?_eq_of_probe ?_ hprobe
        rw [KeyStore.slot?_evictIdle _ _ hu]
        cases st.slot? key <;> simp [Option.filter]
  | advance d =>
      refine ⟨st, ?_, hu, rfl⟩
      simp only [Session.step]
      split <;> exact hs
  | advanceTo t => exact ⟨st, hs, hu, rfl⟩
  | keyCount => exact ⟨st, hs, hu, rfl⟩
  | probe k => exact ⟨st, hs, hu, rfl⟩
  | now => exact ⟨st, hs, hu, rfl⟩
  | describe => exact ⟨st, hs, hu, rfl⟩

/-- A check of `key` under a valid policy updates the store at the session's clock. -/
theorem step_check (key : String) {p : Policy} (hs : s.limiter = D.rebuild st)
    (hp : p.validate = .ok ()) :
    s.step (.check key p) =
      ({ s with limiter := D.rebuild (st.update key s.clock.now (D.hold p) (D.init p) (D.step p)).1 },
        .decision (st.update key s.clock.now (D.hold p) (D.init p) (D.step p)).2) := by
  simp [Session.step, hs, D.check_ok _ _ _ _ hp, Session.answer]

/-- In a run that spares `key`, the checks of `key` answer as the key's own slot does when
visited at their clock readings in turn, and the run leaves the key the slot those visits
leave. -/
theorem keyChecks_eq {p : Policy} (hp : p.validate = .ok ()) :
    ∀ (s : Session) (st : KeyStore σ) (cs : List Command), s.limiter = D.rebuild st →
      st.Unique key → s.Spares key p cs →
      (s.keyChecks key cs).map (·.2) =
          (Slot.run (D.hold p) (D.init p) (D.step p) (st.slot? key)
            ((s.keyChecks key cs).map (·.1))).map .decision ∧
        ∃ st', (s.run cs).1.limiter = D.rebuild st' ∧ st'.Unique key ∧
          st'.slot? key = Slot.final (D.hold p) (D.init p) (D.step p) (st.slot? key)
            ((s.keyChecks key cs).map (·.1))
  | _, st, [], hs, hu, _ => ⟨rfl, st, hs, hu, rfl⟩
  | s, st, c :: cs, hs, hu, ⟨hc, hrest⟩ => by
      by_cases hck : c.checks key
      · simp only [hck, if_true] at hc
        subst hc
        have hstep := D.step_check key hs hp
        rw [hstep] at hrest
        obtain ⟨ih, st', hs', hu', hslot'⟩ := keyChecks_eq hp _ _ cs rfl (hu.update ..) hrest
        rw [KeyStore.slot?_update, if_pos rfl] at ih hslot'
        refine ⟨?_, st', ?_, hu', ?_⟩
        · simp only [Session.keyChecks, hck, if_true, hstep, List.map_cons, Slot.run,
            KeyStore.update_snd]
          rw [ih]
        · simpa [Session.run, hstep] using hs'
        · simpa [Session.keyChecks, hck, hstep, Slot.final] using hslot'
      · simp only [hck, Bool.false_eq_true, if_false] at hc
        obtain ⟨st', hs', hu', hslot⟩ := D.step_frame hs hu (by simpa using hck) hc
        obtain ⟨ih, st'', hs'', hu'', hslot''⟩ := keyChecks_eq hp _ _ cs hs' hu' hrest
        rw [hslot] at ih hslot''
        refine ⟨?_, st'', ?_, hu'', ?_⟩
        · simpa [Session.keyChecks, hck] using ih
        · simpa [Session.run] using hs''
        · simpa [Session.keyChecks, hck] using hslot''

end Keyed

/-- A sliding-log limiter with its cap on entries per key, as a keyed limiter. -/
def SlidingLog.keyed (maxEntries : Nat) : Keyed (List Duration) where
  rebuild st := .slidingLog ⟨maxEntries, st⟩
  hold p := p.window
  init _ _ := []
  step p := SlidingLog.record maxEntries p
  view x := .logLength (x.map List.length)
  check_ok st clock key p h := by
    simp [Limiter.check, SlidingLog.check, h, Limiter.lift]
  check_error st clock key p e h := by
    simp [Limiter.check, SlidingLog.check, h, Limiter.lift]
  checkWithPolicies_eq _ _ _ _ := rfl
  reset_eq _ _ := rfl
  evictIdle_eq _ _ _ := rfl
  probe_eq _ _ := rfl
  view_some_ne_none _ := by simp

/-- A fixed-window limiter as a keyed limiter. -/
def FixedWindow.keyed : Keyed WindowCount where
  rebuild st := .fixedWindow ⟨st⟩
  hold p := p.window
  init p now := ⟨FixedWindow.windowStart now p.window, 0⟩
  step p := FixedWindow.count p
  view x := .count (x.map (·.count))
  check_ok st clock key p h := by
    simp [Limiter.check, FixedWindow.check, h, Limiter.lift]
  check_error st clock key p e h := by
    simp [Limiter.check, FixedWindow.check, h, Limiter.lift]
  checkWithPolicies_eq _ _ _ _ := rfl
  reset_eq _ _ := rfl
  evictIdle_eq _ _ _ := rfl
  probe_eq _ _ := rfl
  view_some_ne_none _ := by simp

/-- A token-bucket limiter with its capacity multiplier, as a keyed limiter. -/
def TokenBucket.keyed (multiplier : Binary64) : Keyed Bucket where
  rebuild st := .tokenBucket ⟨multiplier, st⟩
  hold p := Duration.ofSeconds (TokenBucket.capacity ⟨multiplier, .empty⟩ p / p.rate)
  init p now := ⟨TokenBucket.capacity ⟨multiplier, .empty⟩ p, now⟩
  step p := TokenBucket.take p (TokenBucket.capacity ⟨multiplier, .empty⟩ p) p.rate
  view x := .tokens (x.map (·.tokens))
  check_ok st clock key p h := by
    simp [Limiter.check, TokenBucket.check, h, Limiter.lift, TokenBucket.capacity]
  check_error st clock key p e h := by
    simp [Limiter.check, TokenBucket.check, h, Limiter.lift]
  checkWithPolicies_eq _ _ _ _ := rfl
  reset_eq _ _ := rfl
  evictIdle_eq _ _ _ := rfl
  probe_eq _ _ := rfl
  view_some_ne_none _ := by simp

end Throttle
