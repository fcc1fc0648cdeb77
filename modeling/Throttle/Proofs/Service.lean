import Throttle.Proofs.Composite
import Throttle.Cli.Run
import Throttle.Session

/-! # Validated configurations serve without failing

`Config.validate` checks, before anything is built, every condition under which building the
service or serving a request could fail on the configuration's account: the policy table
(every tier usable, the fallback tier defined), the multiplier and the per-key cap that the
disciplines refuse, the sweep interval, and the composite's members (present, not composites
themselves, with a whole and usable policy of their own or none). A configuration that
validates therefore builds its table and a well-formed limiter, starts its sweeper, and
resolves every tier to a usable policy. Serving a request through admission control then
fails only on the caller's account: a policy override in the request's metadata that does not
read or is refused, or the handler's own failure (`Config.serves_of_validate`).
-/

namespace Throttle

theorem Except.forM_eq_ok {α ε : Type} {f : α → Except ε Unit} {xs : List α} :
    xs.forM f = .ok () ↔ ∀ x ∈ xs, f x = .ok () := by
  induction xs with
  | nil => simp [List.forM, pure, Except.pure]
  | cons x xs ih =>
      rw [List.forM, Except.bind_eq_ok, ih]
      simp only [List.mem_cons, forall_eq_or_imp]
      constructor
      · rintro ⟨u, hx, hxs⟩
        exact ⟨hx, hxs⟩
      · rintro ⟨hx, hxs⟩
        exact ⟨(), hx, hxs⟩

theorem List.mem_of_lookup_eq_some {l : List (String × β)} {k : String} {b : β}
    (h : l.lookup k = some b) : (k, b) ∈ l := by
  obtain ⟨l₁, l₂, rfl, -⟩ := List.lookup_eq_some_iff.mp h
  simp

theorem Duration.nanos_ofSecs_pos {n : Nat} (h : 0 < n) : 0 < (Duration.ofSecs n).nanos := by
  simp only [Duration.ofSecs, Duration.nanos_ofNanos, Duration.limit, nanosPerSecond, Nat.min_def]
  have : 0 < Nat.pow 2 64 := Nat.pow_pos (by decide)
  split <;> omega

/-! ## Policies -/

namespace PolicyTable

theorem validate_tiers {t : PolicyTable} (h : t.validate = .ok ()) :
    t.default.validate = .ok () ∧ ∀ tier ∈ t.tiers, tier.2.validate = .ok () := by
  simp only [validate, Except.bind_eq_ok, Except.forM_eq_ok] at h
  obtain ⟨u, hd, hts⟩ := h
  refine ⟨hd, fun tier htier => ?_⟩
  have h := hts tier htier
  split at h
  · assumption
  · cases h
  · cases h

/-- A table resolves every tier to its default or to one of its tiers' policies, so to a
policy with any property they all have. -/
theorem resolve_of_forall {P : Policy → Prop} {t : PolicyTable} (hd : P t.default)
    (hts : ∀ x ∈ t.tiers, P x.2) (tier : Option String) : P (t.resolve tier) := by
  have hlookup : ∀ name p, t.tiers.lookup name = some p → P p :=
    fun name p hp => hts (name, p) (List.mem_of_lookup_eq_some hp)
  cases tier with
  | none => exact hd
  | some tier =>
      simp only [resolve]
      cases hp : t.tiers.lookup tier with
      | some p => exact hlookup tier p hp
      | none =>
          cases hf : t.fallback with
          | none => exact hd
          | some f =>
              cases hq : t.tiers.lookup f with
              | none => simpa [hq] using hd
              | some q => simpa [hq] using hlookup f q hq

/-- Every tier of a usable table resolves to a usable policy, and so do callers without a
tier. -/
theorem resolve_valid {t : PolicyTable} (h : t.validate = .ok ()) (tier : Option String) :
    (t.resolve tier).validate = .ok () := by
  obtain ⟨hd, hts⟩ := validate_tiers h
  exact @resolve_of_forall (fun p => p.validate = .ok ()) t hd hts tier

end PolicyTable

namespace Override

/-- What applying an override leaves: each field the override sets is positive and replaces
the base's, and each field it leaves is the base's. -/
theorem apply_eq_ok {o : Override} {base q : Policy} (h : o.apply base = .ok q) :
    (o.requests = none ∧ q.limit = base.limit ∨
      ∃ r, o.requests = some r ∧ 0 < r ∧ q.limit = r.toNat) ∧
    (o.window = none ∧ q.window = base.window ∨
      ∃ w, o.window = some w ∧ 0 < w ∧ q.window = Duration.ofSecs w.toNat) := by
  obtain ⟨r?, w?⟩ := o
  cases r? with
  | none =>
      cases w? with
      | none =>
          simp only [apply] at h
          cases h
          exact ⟨.inl ⟨rfl, rfl⟩, .inl ⟨rfl, rfl⟩⟩
      | some w =>
          simp only [apply] at h
          split_ifs at h with hw <;> cases h
          exact ⟨.inl ⟨rfl, rfl⟩, .inr ⟨w, rfl, by omega, rfl⟩⟩
  | some r =>
      cases w? with
      | none =>
          simp only [apply] at h
          split_ifs at h with hr <;> cases h
          exact ⟨.inr ⟨r, rfl, by omega, rfl⟩, .inl ⟨rfl, rfl⟩⟩
      | some w =>
          simp only [apply] at h
          split_ifs at h with hr hw hw <;> cases h
          exact ⟨.inr ⟨r, rfl, by omega, rfl⟩, .inr ⟨w, rfl, by omega, rfl⟩⟩

/-- An override applied to a usable policy gives a usable one. -/
theorem apply_valid {o : Override} {base q : Policy} (hb : base.validate = .ok ())
    (h : o.apply base = .ok q) : q.validate = .ok () := by
  rw [Policy.validate_eq_ok] at hb ⊢
  obtain ⟨hlimit, hwindow⟩ := apply_eq_ok h
  constructor
  · rcases hlimit with ⟨-, hq⟩ | ⟨r, -, hr, hq⟩
    · exact hq ▸ hb.1
    · omega
  · rcases hwindow with ⟨-, hq⟩ | ⟨w, -, hw, hq⟩
    · exact hq ▸ hb.2
    · rw [hq]
      exact Duration.nanos_ofSecs_pos (by omega)

end Override

/-! ## Building the service -/

namespace Config

variable {c : Config}

/-- What validation guarantees of a configuration, condition by condition. -/
structure Valid (c : Config) : Prop where
  table_ok : ∃ t, c.policyTable = .ok t
  multiplier_ok : (!c.limiter.capacityMultiplier.isFinite || c.limiter.capacityMultiplier.le 0) = false
  maxEntries_pos : c.limiter.maxEntriesPerKey ≠ 0
  sweep_pos : c.eviction.enabled = true → c.eviction.sweepIntervalSecs ≠ 0
  members_ok : c.limiter.algorithm = .composite →
    c.limiter.members ≠ [] ∧ validateMembers c.limiter.members = .ok ()

theorem valid_of_validate (h : c.validate = .ok ()) : c.Valid := by
  unfold validate at h
  rcases ht : c.policyTable with e | t
  · simp [ht, bind, Except.bind] at h
  simp only [ht, bind, Except.bind] at h
  split at h
  · cases h
  next hm =>
    split at h
    · cases h
    next he =>
      split at h
      · cases h
      next hs =>
        refine ⟨⟨t, ht⟩, by simpa using hm, he, fun hen => by simpa [hen] using hs, ?_⟩
        intro halg
        rw [if_pos halg] at h
        split at h
        · cases h
        next hne => exact ⟨by simpa [List.isEmpty_iff] using hne, h⟩

/-- Every member of a composite that validates is a discipline with a whole and usable own
policy or none. -/
theorem validateMembers_eq_ok {ms : List MemberSpec} (h : validateMembers ms = .ok ()) :
    ∀ m ∈ ms, m.algorithm ≠ .composite ∧
      ∃ q, m.policy? = .ok q ∧ ∀ p, q = some p → p.validate = .ok () := by
  simp only [validateMembers, Except.forM_eq_ok] at h
  intro m hm
  have h := h m hm
  split at h
  · cases h
  next halg =>
    refine ⟨halg, ?_⟩
    rcases hq : m.policy? with e | q
    · simp [hq, bind, Except.bind] at h
    refine ⟨q, rfl, ?_⟩
    rintro p rfl
    simp only [hq, bind, Except.bind] at h
    split at h
    · cases h
    · exact h

theorem buildSingle_wellFormed {a : Algorithm} {l : Limiter} (h : c.buildSingle a = .ok l) :
    l.wellFormed = true := by
  cases a with
  | tokenBucket =>
      simp only [buildSingle, TokenBucket.create] at h
      split at h
      · cases h
      · cases h
        rfl
  | slidingWindow =>
      simp only [buildSingle, SlidingLog.create] at h
      split at h
      · cases h
      · cases h
        rfl
  | fixedWindow =>
      cases h
      rfl
  | composite => cases h

theorem buildSingle_ok (hv : c.Valid) {a : Algorithm} (ha : a ≠ .composite) :
    ∃ l, c.buildSingle a = .ok l := by
  cases a with
  | tokenBucket =>
      simp [buildSingle, TokenBucket.create, hv.multiplier_ok, Functor.map, Except.map]
  | slidingWindow =>
      simp [buildSingle, SlidingLog.create, hv.maxEntries_pos, Functor.map, Except.map]
  | fixedWindow => exact ⟨_, rfl⟩
  | composite => exact absurd rfl ha

/-- A configuration that validates builds a well-formed limiter. -/
theorem buildLimiter_ok (hv : c.Valid) : ∃ l, c.buildLimiter = .ok l ∧ l.wellFormed = true := by
  unfold buildLimiter
  split
  next halg =>
    obtain ⟨hne, hms⟩ := hv.members_ok halg
    have hspecs := validateMembers_eq_ok hms
    -- each member builds its discipline and keeps its own policy, which is usable
    have hmembers : ∀ m ∈ c.limiter.members, ∃ m' : Member,
        (do
          let l ← c.buildSingle m.algorithm
          let p ← m.policy?
          pure (Member.mk m.name p l) : Except Error Member) = .ok m' ∧
        ((∀ p, m'.policy = some p → p.validate = .ok ()) ∧ m'.limiter.wellFormed = true) := by
      intro m hm
      obtain ⟨halg, q, hq, hqv⟩ := hspecs m hm
      obtain ⟨l, hl⟩ := buildSingle_ok hv halg
      exact ⟨Member.mk m.name q l, by simp [hl, hq, bind, Except.bind, pure, Except.pure],
        hqv, buildSingle_wellFormed hl⟩
    obtain ⟨ms, hbuild, hrel⟩ := Except.exists_mapM_eq_ok hmembers
    refine ⟨.composite ms, by rw [hbuild]; rfl, ?_⟩
    have hms : ms ≠ [] := by
      rintro rfl
      exact hne (List.length_eq_zero_iff.mp hrel.length_eq)
    have hwf : Limiter.membersWellFormed ms = true := by
      rw [Limiter.membersWellFormed_iff]
      intro m' hm'
      obtain ⟨m, -, hm⟩ := Limiter.exists_of_forall₂ hrel.flip hm'
      exact hm
    simp [Limiter.wellFormed, hms, hwf]
  next a halg =>
    obtain ⟨l, hl⟩ := buildSingle_ok hv halg
    exact ⟨l, hl, buildSingle_wellFormed hl⟩

theorem policyTable_validate {t : PolicyTable} (h : c.policyTable = .ok t) :
    t.validate = .ok () := by
  -- every branch that builds a table ends by validating it
  have hfinish : ∀ a : PolicyTable,
      (do a.validate; pure a : Except Error PolicyTable) = .ok t → t.validate = .ok () := by
    intro a ha
    simp only [Except.bind_eq_ok, Except.pure_eq_ok] at ha
    obtain ⟨u, hv, rfl⟩ := ha
    exact hv
  unfold policyTable at h
  split at h
  · exact hfinish _ h
  · split at h
    · exact hfinish _ h
    · cases h

theorem sweepInterval_pos (hv : c.Valid) (hen : c.eviction.enabled = true) :
    0 < c.sweepInterval.nanos :=
  Duration.nanos_ofSecs_pos (Nat.pos_of_ne_zero (hv.sweep_pos hen))

end Config

theorem Session.step_sweep (s : Session) {interval : Duration} (ttl : Duration)
    (h : 0 < interval.nanos) : ∃ n, (s.step (.sweep interval ttl)).2 = .keyCount n := by
  rw [Session.step, if_neg (by omega)]
  exact ⟨_, rfl⟩

/-! ## Serving requests -/

namespace Admission

/-- Why serving a request under the table `t` may fail on the caller's account: the
policy override in its metadata does not read, or is refused for the tier's policy, or the
handler itself fails. -/
def CallerFault {σ : Type} (t : PolicyTable) (inner : Handler σ) (st : σ) (r : Request)
    (e : Error) : Prop :=
  (∃ v, r.metadata.lookup limitsField = some v ∧
    (Override.ofJson v = .error e ∨
      ∃ o, Override.ofJson v = .ok o ∧ o.apply (t.resolve r.tier) = .error e)) ∨
  ∃ st', inner st r = (st', .error e)

namespace Control

/-- A control that serves without failing on its own account: its limiter is well formed
and its policy table usable. -/
structure Sound (c : Control) : Prop where
  wellFormed : c.limiter.wellFormed = true
  policies_ok : c.policies.validate = .ok ()

variable {c : Control} {now : Duration} {r : Request}

theorem policyFor_eq_error {e : Error} (h : c.policyFor r = .error e) :
    ∃ v, r.metadata.lookup limitsField = some v ∧
      (Override.ofJson v = .error e ∨
        ∃ o, Override.ofJson v = .ok o ∧ o.apply (c.policies.resolve r.tier) = .error e) := by
  unfold policyFor at h
  cases hv : r.metadata.lookup limitsField with
  | none => simp [hv] at h
  | some v =>
      refine ⟨v, rfl, ?_⟩
      rw [hv] at h
      cases ho : Override.ofJson v with
      | error e' =>
          simp only [ho, bind, Except.bind, Except.error.injEq] at h
          exact .inl (h ▸ rfl)
      | ok o =>
          simp only [ho, bind, Except.bind] at h
          exact .inr ⟨o, rfl, h⟩

/-- A request's policy is its tier's, or its tier's with the override in its metadata
applied. -/
theorem policyFor_eq_ok {p : Policy} (h : c.policyFor r = .ok p) :
    (r.metadata.lookup limitsField = none ∧ p = c.policies.resolve r.tier) ∨
      ∃ v o, r.metadata.lookup limitsField = some v ∧ Override.ofJson v = .ok o ∧
        o.apply (c.policies.resolve r.tier) = .ok p := by
  unfold policyFor at h
  cases hv : r.metadata.lookup limitsField with
  | none =>
      simp only [hv, Except.ok.injEq] at h
      exact .inl ⟨rfl, h.symm⟩
  | some v =>
      simp only [hv, Except.bind_eq_ok] at h
      obtain ⟨o, ho, happly⟩ := h
      exact .inr ⟨v, o, rfl, ho, happly⟩

theorem policyFor_valid {p : Policy} (hc : c.policies.validate = .ok ())
    (h : c.policyFor r = .ok p) : p.validate = .ok () := by
  rcases policyFor_eq_ok h with ⟨-, rfl⟩ | ⟨v, o, -, -, happly⟩
  · exact PolicyTable.resolve_valid hc r.tier
  · exact Override.apply_valid (PolicyTable.resolve_valid hc r.tier) happly

theorem check_sound (hc : c.Sound) (p : Policy) : (c.check now r p).1.Sound :=
  ⟨(Limiter.wellFormed_check p c.limiter).trans hc.wellFormed, hc.policies_ok⟩

theorem check_ok (hc : c.Sound) {p : Policy} (hp : p.validate = .ok ()) :
    ∃ d, (c.check now r p).2 = .ok d :=
  Limiter.check_ok_of_wellFormed p c.limiter hp hc.wellFormed

end Control

section Guard

variable {σ : Type} {c : Control} {now : Duration} {inner : Handler σ} {st : σ} {r : Request}

/-- Guarding leaves the control as it was, or as the check of the request left it. -/
theorem guard_control :
    (guard c now inner st r).1 = c ∨ ∃ p, (guard c now inner st r).1 = (c.check now r p).1 := by
  unfold guard
  rcases hp : c.policyFor r with e | p
  · exact .inl rfl
  · refine .inr ⟨p, ?_⟩
    rcases hc : c.check now r p with ⟨c', _ | d⟩
    · simp [Control.enforce, hc, Except.map]
    · by_cases hd : d.allowed
      · simp only [Control.enforce, hc, Except.map, Control.outcome, hd, if_true]
        split <;> rfl
      · simp [Control.enforce, hc, Except.map, Control.outcome, hd]

theorem guard_sound (hc : c.Sound) : (guard c now inner st r).1.Sound := by
  rcases (guard_control : _ ∨ ∃ p, (guard c now inner st r).1 = _) with h | ⟨p, h⟩
  · rw [h]
    exact hc
  · rw [h]
    exact Control.check_sound hc p

/-- A sound control fails to serve a request only on the caller's account. -/
theorem guard_error (hc : c.Sound) {e : Error} (h : (guard c now inner st r).2.2 = .error e) :
    CallerFault c.policies inner st r e := by
  unfold guard at h
  rcases hp : c.policyFor r with e' | p
  · rw [hp] at h
    cases h
    exact .inl (Control.policyFor_eq_error hp)
  -- with a usable policy the check itself succeeds, so only the handler is left to fail
  rw [hp] at h
  obtain ⟨d, hd⟩ : ∃ d, (c.check now r p).2 = .ok d :=
    Control.check_ok hc (Control.policyFor_valid hc.policies_ok hp)
  rcases hcheck : c.check now r p with ⟨c', out⟩
  rw [hcheck] at hd
  subst hd
  by_cases hallowed : d.allowed
  · simp only [Control.enforce, hcheck, Except.map, Control.outcome, hallowed, if_true] at h
    rcases hi : inner st r with ⟨st', _ | m⟩
    · rw [hi] at h
      cases h
      exact .inr ⟨st', hi⟩
    · rw [hi] at h
      cases h
  · simp [Control.enforce, hcheck, Except.map, Control.outcome, hallowed] at h

theorem guard_policies : (guard c now inner st r).1.policies = c.policies := by
  rcases (guard_control : _ ∨ ∃ p, (guard c now inner st r).1 = _) with h | ⟨p, h⟩
  · rw [h]
  · rw [h]
    rfl

end Guard

namespace Control

/-- The controls that serving requests leads to from `c`: any number of requests, at any
times, to any handlers. -/
inductive Reaches (c : Control) : Control → Prop
  | start : Reaches c c
  | serve {c' : Control} {σ : Type} (now : Duration) (inner : Handler σ) (st : σ) (r : Request) :
      Reaches c c' → Reaches c (guard c' now inner st r).1

theorem Reaches.sound {c c' : Control} (hc : c.Sound) (h : c.Reaches c') : c'.Sound := by
  induction h with
  | start => exact hc
  | serve now inner st r _ ih => exact guard_sound ih

theorem Reaches.policies_eq {c c' : Control} (h : c.Reaches c') : c'.policies = c.policies := by
  induction h with
  | start => rfl
  | serve now inner st r _ ih => exact guard_policies.trans ih

end Control

theorem Request.metadata_withExtensionHeader (r : Request) (header : String) :
    (r.withExtensionHeader header).metadata = r.metadata := by
  unfold Request.withExtensionHeader
  -- each requested capability leaves the metadata alone
  generalize Request.headerEntries header = uris
  induction uris generalizing r with
  | nil => rfl
  | cons uri uris ih => exact ih (r.withRequested uri)

end Admission

namespace Cli

open Admission

theorem simulatedRequest_metadata (o : Options) : (simulatedRequest o).metadata = [] := by
  unfold simulatedRequest
  lift_lets
  extract_lets r₀ r
  -- the address and the tier leave the metadata empty, and so do the capabilities that the
  -- signalling header asks for
  have hr : r.metadata = [] := by
    simp only [r]
    split <;> rfl
  clear_value r r₀
  split
  · split
    · split
      · rw [Request.metadata_withExtensionHeader, hr]
      · exact hr
    · exact hr
  · exact hr

/-- A sound control answers every request of a burst without metadata: no override can be
refused and the greeter never fails. -/
theorem burst_ok (now : Duration) {r : Request} (hr : r.metadata.lookup limitsField = none)
    (n : Nat) : ∀ {c : Control}, c.Sound → (burst c now r n).2 = none := by
  induction n with
  | zero =>
      intro c hc
      rfl
  | succ n ih =>
      intro c hc
      have hsound : (guard c now greeter () r).1.Sound := guard_sound hc
      rcases hg : guard c now greeter () r with ⟨c', st', e | m⟩
      · exfalso
        have herr : (guard c now greeter () r).2.2 = .error e := by rw [hg]
        rcases guard_error hc herr with ⟨v, hv, -⟩ | ⟨st'', hi⟩
        · simp [hr] at hv
        · cases hi
      · rw [hg] at hsound
        simp only [burst, hg]
        exact ih hsound

end Cli

namespace Config

/-- A configuration that validates builds its policy table, whose every tier resolves to a
usable policy, and a limiter whose checks under usable policies all succeed; its sweeper
starts. Serving requests through admission control over them then fails, request after
request, only on the caller's account, and a simulation with it answers every request. -/
theorem serves_of_validate {c : Config} (h : c.validate = .ok ()) :
    ∃ t l, c.policyTable = .ok t ∧ (∀ tier, (t.resolve tier).validate = .ok ()) ∧
      c.buildLimiter = .ok l ∧
      (c.eviction.enabled = true →
        ∀ s : Session, ∃ n, (s.step (.sweep c.sweepInterval c.idleTtl)).2 = .keyCount n) ∧
      (∀ clock key p, p.validate = .ok () → ∃ d, (l.check clock key p).2 = .ok d) ∧
      (∀ clock key tier, ∃ d, (l.check clock key (t.resolve tier)).2 = .ok d) ∧
      c.control = .ok ⟨l, Admission.Request.standardKey, t⟩ ∧
      (∀ ctl, Admission.Control.Reaches ⟨l, Admission.Request.standardKey, t⟩ ctl →
        ∀ (σ : Type) (now : Duration) (inner : Admission.Handler σ) (st : σ)
          (r : Admission.Request) (e : Error),
          (Admission.guard ctl now inner st r).2.2 = .error e →
            Admission.CallerFault t inner st r e) ∧
      (∀ o dir env, Config.load dir env o.config = .ok c →
        ∃ lines, Cli.simulate o dir env = ⟨0, lines, ""⟩) := by
  have hv := valid_of_validate h
  obtain ⟨t, ht⟩ := hv.table_ok
  obtain ⟨l, hl, hwf⟩ := buildLimiter_ok hv
  have htv := policyTable_validate ht
  have hsound : (⟨l, Admission.Request.standardKey, t⟩ : Admission.Control).Sound := ⟨hwf, htv⟩
  have hcontrol : c.control = .ok ⟨l, Admission.Request.standardKey, t⟩ := by
    simp only [control, hl, ht, bind, Except.bind, pure, Except.pure]
  refine ⟨t, l, ht, PolicyTable.resolve_valid htv, hl, ?sweep, ?checks, ?tiers, hcontrol, ?serve,
    ?simulate⟩
  case sweep =>
    intro hen s
    exact Session.step_sweep s _ (sweepInterval_pos hv hen)
  case checks =>
    intro clock key p hp
    exact Limiter.check_ok_of_wellFormed p l hp hwf
  case tiers =>
    intro clock key tier
    exact Limiter.check_ok_of_wellFormed _ l (PolicyTable.resolve_valid htv tier) hwf
  case serve =>
    -- every control that serving reaches is sound and keeps the table
    intro ctl hreach σ now inner st r e herr
    have hfault := Admission.guard_error (hreach.sound hsound) herr
    rwa [hreach.policies_eq] at hfault
  case simulate =>
    intro o dir env hload
    have hburst : (Cli.burst ⟨l, Admission.Request.standardKey, t⟩ Duration.zero
        (Cli.simulatedRequest o) o.requests).2 = none :=
      Cli.burst_ok Duration.zero (by rw [Cli.simulatedRequest_metadata]; rfl) o.requests hsound
    unfold Cli.simulate
    rw [hload]
    simp only [Except.bind, hcontrol]
    rcases hb : Cli.burst ⟨l, Admission.Request.standardKey, t⟩ Duration.zero
      (Cli.simulatedRequest o) o.requests with ⟨lines, _ | e⟩
    · exact ⟨lines, rfl⟩
    · rw [hb] at hburst
      cases hburst

/-- A composite of a token bucket with its own policy of ten a second and a fixed window under
the caller's policy validates, and so serves. -/
theorem serves_of_validate_composite :
    let c : Config :=
      { limiter :=
        { algorithm := Algorithm.composite
          members := [⟨"burst", .tokenBucket, some 10, some 1⟩,
            ⟨"hourly", .fixedWindow, none, none⟩] } }
    c.validate = .ok () ∧ ∃ t l, c.policyTable = .ok t ∧ c.buildLimiter = .ok l ∧
      (∀ clock key tier, ∃ d, (l.check clock key (t.resolve tier)).2 = .ok d) := by
  intro c
  have hv : c.validate = .ok () := Except.isOk_iff_eq_ok.mp (by decide +kernel)
  obtain ⟨t, l, ht, -, hl, -, -, htiers, -⟩ := serves_of_validate hv
  exact ⟨hv, t, l, ht, hl, htiers⟩

end Config

end Throttle
