import Mathlib
import Throttle.Proofs.Time
import Throttle.Limiter.Basic

/-! # Composite checks

A composite check resolves and validates every member's policy first, then asks every member
in order, also after one has refused, and folds their decisions (`Limiter.Folds`): the least
limit of all; when all admit, the least remaining count and the latest reset under all
names; otherwise the refusing members' names, latest reset and longest wait. So a composite
check is exactly one check of each member followed by the fold
(`composite_check_folds_members`).

Because the policies are settled first, a refused policy at the top leaves every member as
it was. A member that is itself a composite settles its own members' policies only when its
turn comes, after the members before it were checked, and it can still fail there: it may
have no members, or a member whose own policy is refused. A limiter in which no composite
can fail so is *well formed* (`Limiter.wellFormed`). Its checks under a usable policy always
succeed, and a failed check of a limiter whose members are well formed leaves it as it was
(`failed_check_keeps_limiter`).
-/

namespace Throttle

theorem Except.bind_eq_ok {ε α β : Type} {x : Except ε α} {f : α → Except ε β} {b : β} :
    x >>= f = .ok b ↔ ∃ a, x = .ok a ∧ f a = .ok b := by
  cases x <;> simp [bind, Except.bind]

theorem Except.pure_eq_ok {ε α : Type} {a b : α} : (pure a : Except ε α) = .ok b ↔ a = b := by
  simp [pure, Except.pure]

theorem Except.isOk_iff_eq_ok {ε : Type} {x : Except ε Unit} : x.isOk = true ↔ x = .ok () := by
  cases x <;> simp [Except.isOk, Except.toBool]

/-- A traversal succeeds exactly when every step does, each giving the matching result. -/
theorem Except.mapM_eq_ok {ε α β : Type} {f : α → Except ε β} {xs : List α} :
    ∀ {ys : List β}, xs.mapM f = .ok ys ↔ List.Forall₂ (fun x y => f x = .ok y) xs ys := by
  induction xs with
  | nil =>
      intro ys
      cases ys <;> simp [List.mapM_nil, pure, Except.pure]
  | cons x xs ih =>
      intro ys
      simp only [List.mapM_cons, Except.bind_eq_ok, Except.pure_eq_ok]
      cases ys with
      | nil => simp
      | cons y ys =>
          simp only [List.forall₂_cons, List.cons.injEq, ← ih]
          constructor
          · rintro ⟨y', hy, ys', hys, rfl, rfl⟩
            exact ⟨hy, hys⟩
          · rintro ⟨hy, hys⟩
            exact ⟨y, hy, ys, hys, rfl, rfl⟩

/-- A traversal whose every step succeeds succeeds, each result related to its item as the
steps promise. -/
theorem Except.exists_mapM_eq_ok {ε α β : Type} {f : α → Except ε β} {P : α → β → Prop}
    {xs : List α} (h : ∀ x ∈ xs, ∃ y, f x = .ok y ∧ P x y) :
    ∃ ys, xs.mapM f = .ok ys ∧ List.Forall₂ P xs ys := by
  induction xs with
  | nil => exact ⟨[], rfl, .nil⟩
  | cons x xs ih =>
      obtain ⟨y, hy, hP⟩ := h x List.mem_cons_self
      obtain ⟨ys, hys, hPs⟩ := ih fun x' hx' => h x' (List.mem_cons_of_mem x hx')
      refine ⟨y :: ys, ?_, .cons hP hPs⟩
      rw [Except.mapM_eq_ok, List.forall₂_cons]
      exact ⟨hy, Except.mapM_eq_ok.mp hys⟩

theorem Decision.retryAfter?_of_refused {d : Decision} (h : d.allowed = false) :
    ∃ w, d.retryAfter? = some w := by
  obtain ⟨v, _, _, _⟩ := d
  cases v with
  | admitted r => simp [Decision.allowed] at h
  | refused w => exact ⟨w, rfl⟩

namespace Policy

theorem validate_eq_error {p : Policy} {e : Error} (h : p.validate = .error e) :
    ∃ f, e = .policy f := by
  unfold validate at h
  split at h
  · cases h
    exact ⟨_, rfl⟩
  · split at h
    · cases h
      exact ⟨_, rfl⟩
    · cases h

end Policy

namespace Limiter

/-- The members of a composite; a discipline has none. -/
def members : Limiter → List Member
  | composite ms => ms
  | _ => []

mutual

/-- Whether every check under a usable policy succeeds, by the shape of the limiter: a
discipline, or a composite with members whose own policies are usable and whose limiters
are well formed. -/
def wellFormed : Limiter → Bool
  | composite ms => !ms.isEmpty && membersWellFormed ms
  | _ => true

/-- Whether every member's own policy is usable and every member's limiter well formed. -/
def membersWellFormed : List Member → Bool
  | [] => true
  | Member.mk _ q l :: ms => q.all (·.validate.isOk) && wellFormed l && membersWellFormed ms

end

theorem membersWellFormed_iff {ms : List Member} :
    membersWellFormed ms = true ↔
      ∀ m ∈ ms, (∀ q, m.policy = some q → q.validate = .ok ()) ∧ m.limiter.wellFormed = true := by
  induction ms with
  | nil => simp [membersWellFormed]
  | cons m ms ih =>
      obtain ⟨n, q, l⟩ := m
      simp [membersWellFormed, ih, Member.policy, Member.limiter, Option.all_eq_true, Except.isOk_iff_eq_ok,
        and_assoc]

/-! ## Settling the members' policies -/

theorem memberPolicies_cons (resolve : Member → Except Error Policy) (m : Member) (ms : List Member) :
    memberPolicies resolve (m :: ms) =
      (do let p ← resolve m; p.validate; let ps ← memberPolicies resolve ms; pure (p :: ps)) := by
  simp only [memberPolicies, List.mapM_cons, bind_assoc, pure_bind]

/-- The policies settle exactly when each member's resolves and is usable. -/
theorem memberPolicies_eq_ok {resolve : Member → Except Error Policy} {ms : List Member}
    {ps : List Policy} : memberPolicies resolve ms = .ok ps ↔
      List.Forall₂ (fun m p => resolve m = .ok p ∧ p.validate = .ok ()) ms ps := by
  rw [memberPolicies, Except.mapM_eq_ok]
  constructor
  · refine fun h => h.imp fun m p hmp => ?_
    simp only [Except.bind_eq_ok, Except.pure_eq_ok] at hmp
    obtain ⟨q, hq, u, hv, rfl⟩ := hmp
    exact ⟨hq, hv⟩
  · refine fun h => h.imp fun m p hmp => ?_
    obtain ⟨hq, hv⟩ := hmp
    simp only [Except.bind_eq_ok, Except.pure_eq_ok]
    exact ⟨p, hq, (), hv, rfl⟩

/-- Settling the policies fails with a policy error when every failure to resolve a member's
policy is one. -/
theorem memberPolicies_error_policy {resolve : Member → Except Error Policy} {ms : List Member}
    {e : Error} (hkind : ∀ m ∈ ms, ∀ e, resolve m = .error e → ∃ f, e = .policy f)
    (h : memberPolicies resolve ms = .error e) : ∃ f, e = .policy f := by
  induction ms with
  | nil => simp [memberPolicies, List.mapM_nil, pure, Except.pure] at h
  | cons m ms ih =>
      rw [memberPolicies_cons] at h
      rcases hr : resolve m with e' | p
      · rw [hr] at h
        cases h
        exact hkind m List.mem_cons_self e hr
      rcases hv : p.validate with e' | u
      · simp only [hr, hv, bind, Except.bind, Except.error.injEq] at h
        subst h
        exact Policy.validate_eq_error hv
      rcases hrest : memberPolicies resolve ms with e' | ps
      · simp only [hr, hv, hrest, bind, Except.bind, Except.error.injEq] at h
        subst h
        exact ih (fun m' hm' => hkind m' (List.mem_cons_of_mem m hm')) hrest
      · simp [hr, hv, hrest, bind, Except.bind, pure, Except.pure] at h

theorem exists_of_forall₂ {α β : Type} {R : α → β → Prop} {x : α} :
    ∀ {xs : List α} {ys : List β}, List.Forall₂ R xs ys → x ∈ xs → ∃ y ∈ ys, R x y
  | _, _, .nil, hx => by simp at hx
  | _, _, .cons hxy h, hx => by
      rcases List.mem_cons.mp hx with rfl | hx
      · exact ⟨_, List.mem_cons_self, hxy⟩
      · obtain ⟨y, hy, hxy'⟩ := exists_of_forall₂ h hx
        exact ⟨y, List.mem_cons_of_mem _ hy, hxy'⟩

/-! ## Folding the members' decisions -/

/-- The names of the deciding members, joined by commas. -/
def namesOf (rs : List (String × Decision)) : String := ",".intercalate (rs.map (·.1))

/-- The refusing members, in member order. -/
def refusals (rs : List (String × Decision)) : List (String × Decision) := rs.filter (!·.2.allowed)

/-- How a composite's decision folds its members' named decisions. -/
inductive Folds (rs : List (String × Decision)) : Decision → Prop
  /-- Every member admits: so does the composite, in the name of all members, under the
  least limit and the least remaining count, whole again at the latest reset. -/
  | admitting {limit remaining : Nat} {reset : Duration} :
      (∀ r ∈ rs, r.2.allowed = true) →
      IsLeast {x | ∃ r ∈ rs, r.2.limit = x} limit →
      IsLeast {x | ∃ r ∈ rs, r.2.remaining = x} remaining →
      IsGreatest {x | ∃ r ∈ rs, r.2.resetTime = x} reset →
      Folds rs (.allow (namesOf rs) limit remaining reset)
  /-- Some member refuses: so does the composite, in the name of the refusing members, under
  the least limit of all members, whole again at the latest reset among the refusing members
  and after the longest of their waits. -/
  | refusing {limit : Nat} {reset wait : Duration} :
      (∃ r ∈ rs, r.2.allowed = false) →
      IsLeast {x | ∃ r ∈ rs, r.2.limit = x} limit →
      IsGreatest {x | ∃ r ∈ refusals rs, r.2.resetTime = x} reset →
      IsGreatest {x | ∃ r ∈ refusals rs, r.2.retryAfter? = some x} wait →
      Folds rs (.deny (namesOf (refusals rs)) limit reset wait)

section Extrema

variable {α : Type} {xs : List α} {a : α}

theorem isLeast_of_min? [Min α] [LE α] [Std.IsLinearOrder α] [Std.LawfulOrderMin α]
    (h : xs.min? = some a) : IsLeast {x | x ∈ xs} a := by
  obtain ⟨hmem, hle⟩ := List.min?_eq_some_iff.mp h
  exact ⟨hmem, fun x hx => hle x hx⟩

theorem isGreatest_of_max? [Max α] [LE α] [Std.IsLinearOrder α] [Std.LawfulOrderMax α]
    (h : xs.max? = some a) : IsGreatest {x | x ∈ xs} a := by
  obtain ⟨hmem, hle⟩ := List.max?_eq_some_iff.mp h
  exact ⟨hmem, fun x hx => hle x hx⟩

theorem exists_min?_eq [Min α] (h : xs ≠ []) : ∃ a, xs.min? = some a :=
  Option.ne_none_iff_exists'.mp (mt List.min?_eq_none_iff.mp h)

theorem exists_max?_eq [Max α] (h : xs ≠ []) : ∃ a, xs.max? = some a :=
  Option.ne_none_iff_exists'.mp (mt List.max?_eq_none_iff.mp h)

end Extrema

/-- The fold of a composite's decisions is the one `Folds` describes. -/
theorem combine_folds {rs : List (String × Decision)} (hne : rs ≠ []) : Folds rs (combine rs) := by
  obtain ⟨limit, hlimit⟩ := exists_min?_eq (mt List.map_eq_nil_iff.mp hne : rs.map (·.2.limit) ≠ [])
  have hleast := isLeast_of_min? hlimit
  simp only [List.mem_map] at hleast
  unfold combine
  simp only [hlimit, Option.getD_some]
  split
  next hnone =>
    obtain ⟨rem, hrem⟩ := exists_min?_eq (mt List.map_eq_nil_iff.mp hne : rs.map (·.2.remaining) ≠ [])
    obtain ⟨reset, hreset⟩ := exists_max?_eq (mt List.map_eq_nil_iff.mp hne : rs.map (·.2.resetTime) ≠ [])
    simp only [hrem, hreset, Option.getD_some]
    have hall : ∀ r ∈ rs, r.2.allowed = true := by
      simpa [List.isEmpty_iff, List.filter_eq_nil_iff] using hnone
    have hrem' := isLeast_of_min? hrem
    have hreset' := isGreatest_of_max? hreset
    simp only [List.mem_map] at hrem' hreset'
    exact .admitting hall hleast hrem' hreset'
  next hsome =>
    have hden : refusals rs ≠ [] := by simpa only [refusals, List.isEmpty_iff] using hsome
    obtain ⟨r, hr⟩ := List.exists_mem_of_ne_nil _ hden
    have hrefused : r.2.allowed = false := by simpa using (List.mem_filter.mp hr).2
    obtain ⟨w, hw⟩ := Decision.retryAfter?_of_refused hrefused
    obtain ⟨reset, hreset⟩ :=
      exists_max?_eq (mt List.map_eq_nil_iff.mp hden : (refusals rs).map (·.2.resetTime) ≠ [])
    obtain ⟨wait, hwait⟩ := exists_max?_eq
      (List.ne_nil_of_mem (List.mem_filterMap.mpr ⟨r, hr, hw⟩) :
        (refusals rs).filterMap (·.2.retryAfter?) ≠ [])
    have hreset' := isGreatest_of_max? hreset
    have hwait' := isGreatest_of_max? hwait
    simp only [List.mem_map] at hreset'
    simp only [List.mem_filterMap] at hwait'
    simp only [refusals] at hreset' hwait' hreset hwait
    simp only [hreset, hwait, Option.getD_some]
    exact .refusing ⟨r, (List.mem_filter.mp hr).1, hrefused⟩ hleast hreset' hwait'

/-! ## Checking every member -/

variable {clock : Duration} {key : String}

/-- The members `ms`, checked once each under the policies `ps`, all succeed, with the
decisions `rs`, and leave the members `ms'`: each keeps its name and its own policy and holds
its limiter as its own check left it. -/
structure ChecksEach (clock : Duration) (key : String) (ms : List Member) (ps : List Policy)
    (rs : List Decision) (ms' : List Member) : Prop where
  length_eq : ms.length = ps.length
  decisions : List.Forall₂ (fun mp r => (mp.1.limiter.check clock key mp.2).2 = .ok r) (ms.zip ps) rs
  members_eq : ms' = List.zipWith (fun m p => Member.mk m.name m.policy (m.limiter.check clock key p).1) ms ps

/-- When checking the members succeeds, it checked each once, and its decisions follow the
ones gathered before. -/
theorem checkMembers_eq_ok {ms : List Member} :
    ∀ {ps : List Policy} {acc out : List (String × Decision)} {ms' : List Member},
      ms.length = ps.length → checkMembers clock key ms ps acc = (ms', .ok out) →
      ∃ rs, ChecksEach clock key ms ps rs ms' ∧ out = acc.reverse ++ (ms.map Member.name).zip rs := by
  induction ms with
  | nil =>
      intro ps acc out ms' hlen h
      obtain rfl : ps = [] := List.length_eq_zero_iff.mp hlen.symm
      simp only [checkMembers, Prod.mk.injEq, Except.ok.injEq] at h
      obtain ⟨rfl, rfl⟩ := h
      exact ⟨[], ⟨rfl, .nil, rfl⟩, by simp⟩
  | cons m ms ih =>
      intro ps acc out ms' hlen h
      obtain ⟨n, q, l⟩ := m
      obtain ⟨p, ps, rfl⟩ : ∃ p ps', ps = p :: ps' := List.exists_cons_of_length_eq_add_one hlen.symm
      rw [checkMembers] at h
      rcases hc : check clock key p l with ⟨l', r⟩
      rw [hc] at h
      cases r with
      | error e => simp at h
      | ok d =>
          dsimp only at h
          rcases hrest : checkMembers clock key ms ps ((n, d) :: acc) with ⟨ms'', out'⟩
          rw [hrest] at h
          simp only [Prod.mk.injEq] at h
          obtain ⟨rfl, rfl⟩ := h
          obtain ⟨rs, ⟨hlen', hdec, hms⟩, hout⟩ := ih (by simpa using hlen) hrest
          refine ⟨d :: rs, ⟨hlen, ?_, ?_⟩, ?_⟩
          · exact List.Forall₂.cons (by simp [Member.limiter, hc]) hdec
          · simp [hms, hc, Member.name, Member.policy, Member.limiter]
          · simp [hout, Member.name]

theorem ChecksEach.length_decisions {ms : List Member} {ps : List Policy} {rs : List Decision}
    {ms' : List Member} (h : ChecksEach clock key ms ps rs ms') : rs.length = ms.length := by
  rw [← h.decisions.length_eq, List.length_zip, h.length_eq, Nat.min_self]

/-- A composite check that succeeds settled every member's policy, checked each member once
under it, and folded their decisions. -/
theorem evaluate_eq_ok {resolve : Member → Except Error Policy} {ms : List Member} {l' : Limiter}
    {d : Decision} (h : evaluate clock key resolve ms = (l', .ok d)) :
    ∃ ps rs ms', List.Forall₂ (fun m p => resolve m = .ok p ∧ p.validate = .ok ()) ms ps ∧
      ChecksEach clock key ms ps rs ms' ∧ l' = composite ms' ∧
      Folds ((ms.map Member.name).zip rs) d := by
  rw [evaluate] at h
  split at h
  · simp at h
  next hne =>
    split at h
    · simp at h
    next ps hps =>
      rcases hc : checkMembers clock key ms ps [] with ⟨ms', out⟩
      rw [hc] at h
      cases out with
      | error e => simp [Except.map] at h
      | ok out =>
          simp only [Except.map, Prod.mk.injEq, Except.ok.injEq] at h
          obtain ⟨rfl, rfl⟩ := h
          have hpol := memberPolicies_eq_ok.mp hps
          obtain ⟨rs, hchk, rfl⟩ := checkMembers_eq_ok hpol.length_eq hc
          refine ⟨ps, rs, ms', hpol, hchk, rfl, ?_⟩
          apply combine_folds
          rw [← List.length_pos_iff, List.length_zip, List.length_map, hchk.length_decisions,
            Nat.min_self, List.length_pos_iff]
          simpa using hne

/-- A member's policy under a policy map: the map's entry for the member's name, or the
member's own policy when the map has none. -/
def Resolves (M : List (String × Policy)) (m : Member) (q : Policy) : Prop :=
  M.lookup m.name = some q ∨ (M.lookup m.name = none ∧ m.policy = some q)

/-- A check with a policy map evaluates the members under a resolution that gives each member
the map's policy for its name, or else its own. -/
theorem checkWithPolicies_composite (clock : Duration) (key : String) (M : List (String × Policy))
    (ms : List Member) :
    ∃ resolve : Member → Except Error Policy, (∀ m q, resolve m = .ok q → Resolves M m q) ∧
      (composite ms).checkWithPolicies clock key M = some (evaluate clock key resolve ms) := by
  refine ⟨_, fun m q hq => ?_, rfl⟩
  unfold Resolves
  cases hl : M.lookup m.name <;> cases hp : m.policy <;> simp_all [Option.orElse]

/-- A composite check asks every member once, under its own policy or else the caller's (or,
with a policy map, the map's policy for its name or else its own), also the members after one
that refuses, and folds the decisions. With a policy map, a member with no policy at all makes
the check fail with a policy error before any member is asked. -/
theorem composite_check_folds_members (clock : Duration) (key : String) (ms : List Member) :
    (∀ p l' d, (composite ms).check clock key p = (l', .ok d) →
      ∃ rs ms', ChecksEach clock key ms (ms.map (·.policy.getD p)) rs ms' ∧
        l' = composite ms' ∧ Folds ((ms.map Member.name).zip rs) d) ∧
    (∀ M l' d, (composite ms).checkWithPolicies clock key M = some (l', .ok d) →
      ∃ ps rs ms', List.Forall₂ (Resolves M) ms ps ∧ ChecksEach clock key ms ps rs ms' ∧
        l' = composite ms' ∧ Folds ((ms.map Member.name).zip rs) d) ∧
    (∀ M, (∃ m ∈ ms, M.lookup m.name = none ∧ m.policy = none) →
      ∃ f, (composite ms).checkWithPolicies clock key M = some (composite ms, .error (.policy f))) := by
  refine ⟨?caller, ?map, ?missing⟩
  case caller =>
    intro p l' d h
    rw [check] at h
    obtain ⟨ps, rs, ms', hps, hchk, rfl, hfold⟩ := evaluate_eq_ok h
    -- each member's policy resolved to its own or the caller's
    have hmap : ms.map (·.policy.getD p) = ps := by
      rw [← List.forall₂_eq_eq_eq, List.forall₂_map_left_iff]
      exact hps.imp fun _ _ h => Except.ok.inj h.1
    subst hmap
    exact ⟨rs, ms', hchk, rfl, hfold⟩
  case map =>
    intro M l' d h
    obtain ⟨resolve, hresolve, hcheck⟩ := checkWithPolicies_composite clock key M ms
    rw [hcheck, Option.some.injEq] at h
    obtain ⟨ps, rs, ms', hps, hchk, rfl, hfold⟩ := evaluate_eq_ok h
    exact ⟨ps, rs, ms', hps.imp fun m q hmq => hresolve m q hmq.1, hchk, rfl, hfold⟩
  case missing =>
    rintro M ⟨m, hm, hl, hp⟩
    simp only [checkWithPolicies, Option.some.injEq]
    rw [evaluate, if_neg (by simpa using List.ne_nil_of_mem hm)]
    split
    next e hmp =>
      refine (memberPolicies_error_policy ?_ hmp).imp fun f hf => by rw [hf]
      intro m' _ e he
      cases hl' : M.lookup m'.name <;> cases hp' : m'.policy <;> simp_all [Option.orElse]
      cases he
      exact ⟨_, rfl⟩
    next ps hmp =>
      obtain ⟨q, -, hq, -⟩ := exists_of_forall₂ (memberPolicies_eq_ok.mp hmp) hm
      simp [hl, hp, Option.orElse] at hq

/-! ## Checks that cannot fail -/

theorem membersWellFormed_of_wellFormed {ms : List Member} (h : (composite ms).wellFormed = true) :
    ms ≠ [] ∧ membersWellFormed ms = true := by
  simpa [wellFormed, List.isEmpty_iff] using h

/-- The policies of well-formed members under a usable caller policy are the members' own or
the caller's, and all settle. -/
theorem memberPolicies_of_wellFormed {p : Policy} (hp : p.validate = .ok ()) {ms : List Member}
    (hms : membersWellFormed ms = true) :
    memberPolicies (fun m => .ok (m.policy.getD p)) ms = .ok (ms.map (·.policy.getD p)) := by
  refine memberPolicies_eq_ok.mpr (List.forall₂_map_right_iff.mpr (List.forall₂_same.mpr ?_))
  intro m hm
  refine ⟨rfl, ?_⟩
  cases hq : m.policy with
  | none => exact hp
  | some q => exact ((membersWellFormed_iff.mp hms) m hm).1 q hq

mutual

/-- A well-formed limiter's check under a usable policy succeeds. -/
theorem check_ok_of_wellFormed :
    ∀ (p : Policy) (l : Limiter), p.validate = .ok () → l.wellFormed = true →
      ∃ d, (l.check clock key p).2 = .ok d
  | p, tokenBucket l, hp, _ => by
      rw [check, TokenBucket.check, hp]
      exact ⟨_, rfl⟩
  | p, slidingLog l, hp, _ => by
      rw [check, SlidingLog.check, hp]
      exact ⟨_, rfl⟩
  | p, fixedWindow l, hp, _ => by
      rw [check, FixedWindow.check, hp]
      exact ⟨_, rfl⟩
  | p, composite ms, hp, h => by
      obtain ⟨hne, hms⟩ := membersWellFormed_of_wellFormed h
      have hlims : ∀ m ∈ ms, m.limiter.wellFormed = true :=
        fun m hm => ((membersWellFormed_iff.mp hms) m hm).2
      have hpols : ∀ q ∈ ms.map (·.policy.getD p), q.validate = .ok () := by
        intro q hq
        obtain ⟨m, hm, rfl⟩ := List.mem_map.mp hq
        cases hmq : m.policy with
        | none => exact hp
        | some q => exact ((membersWellFormed_iff.mp hms) m hm).1 q hmq
      obtain ⟨out, hout⟩ : ∃ out, (checkMembers clock key ms (ms.map (·.policy.getD p)) []).2 = .ok out :=
        checkMembers_ok_of_wellFormed ms _ [] hlims hpols
      rw [check, evaluate, if_neg (by simpa using hne), memberPolicies_of_wellFormed hp hms]
      dsimp only
      rw [hout]
      exact ⟨_, rfl⟩

/-- Checking members with well-formed limiters under usable policies succeeds. -/
theorem checkMembers_ok_of_wellFormed :
    ∀ (ms : List Member) (ps : List Policy) (acc : List (String × Decision)),
      (∀ m ∈ ms, m.limiter.wellFormed = true) → (∀ q ∈ ps, q.validate = .ok ()) →
      ∃ out, (checkMembers clock key ms ps acc).2 = .ok out
  | [], _, acc, _, _ => ⟨acc.reverse, by simp [checkMembers]⟩
  | Member.mk _ _ _ :: _, [], acc, _, _ => ⟨acc.reverse, by simp [checkMembers]⟩
  | Member.mk n q l :: ms, p :: ps, acc, hms, hps => by
      obtain ⟨d, hd⟩ := check_ok_of_wellFormed p l (hps p List.mem_cons_self)
        (hms _ List.mem_cons_self)
      obtain ⟨out, hout⟩ := checkMembers_ok_of_wellFormed ms ps ((n, d) :: acc)
        (fun m hm => hms m (List.mem_cons_of_mem _ hm)) (fun q hq => hps q (List.mem_cons_of_mem _ hq))
      rw [checkMembers]
      rcases hc : check clock key p l with ⟨l', r⟩
      rw [hc] at hd
      subst hd
      dsimp only
      rcases hr : checkMembers clock key ms ps ((n, d) :: acc) with ⟨ms', out'⟩
      rw [hr] at hout
      exact ⟨out, hout⟩

end

/-- A token bucket with its own policy beside a fixed window without one: a check under the
caller's policy succeeds and folds both members' checks, and a policy map naming only the
bucket leaves the window without a policy. -/
theorem composite_check_folds_members_bucket_window :
    let ms := [Member.mk "bucket" (some (Policy.ofSecs 10 60)) (.tokenBucket .standard),
      .mk "window" none (.fixedWindow .standard)]
    let M := [("bucket", Policy.ofSecs 5 60)]
    (∃ l' d, (composite ms).check (Duration.ofSecs 1000) "client" (Policy.ofSecs 2 10) = (l', .ok d) ∧
      ∃ rs ms', ChecksEach (Duration.ofSecs 1000) "client" ms
          (ms.map (·.policy.getD (Policy.ofSecs 2 10))) rs ms' ∧
        l' = composite ms' ∧ Folds ((ms.map Member.name).zip rs) d) ∧
      (∃ m ∈ ms, M.lookup m.name = none ∧ m.policy = none) ∧
      ∃ f, (composite ms).checkWithPolicies (Duration.ofSecs 1000) "client" M =
        some (composite ms, .error (.policy f)) := by
  intro ms M
  have hfolds := composite_check_folds_members (Duration.ofSecs 1000) "client" ms
  obtain ⟨d, hd⟩ : ∃ d, ((composite ms).check (Duration.ofSecs 1000) "client" (Policy.ofSecs 2 10)).2 = .ok d :=
    check_ok_of_wellFormed _ _ rfl (by decide)
  have hcheck : (composite ms).check (Duration.ofSecs 1000) "client" (Policy.ofSecs 2 10) =
      (((composite ms).check (Duration.ofSecs 1000) "client" (Policy.ofSecs 2 10)).1, .ok d) :=
    Prod.ext rfl hd
  have hmissing : ∃ m ∈ ms, M.lookup m.name = none ∧ m.policy = none :=
    ⟨_, List.mem_cons_of_mem _ List.mem_cons_self, rfl, rfl⟩
  exact ⟨⟨_, d, hcheck, hfolds.1 _ _ d hcheck⟩, hmissing, hfolds.2.2 M hmissing⟩

/-- A composite check whose members are well formed fails only while settling the policies,
before any member is asked, so it leaves the members as they were. -/
theorem evaluate_error_keeps {resolve : Member → Except Error Policy} {ms : List Member}
    (hms : ∀ m ∈ ms, m.limiter.wellFormed = true) {e : Error}
    (h : (evaluate clock key resolve ms).2 = .error e) : (evaluate clock key resolve ms).1 = composite ms := by
  rw [evaluate] at h ⊢
  split
  · rfl
  next hne =>
    rw [if_neg hne] at h
    split
    · rfl
    next ps hps =>
      rw [hps] at h
      have hpols : ∀ q ∈ ps, q.validate = .ok () := by
        intro q hq
        obtain ⟨m, -, -, hv⟩ := exists_of_forall₂ (memberPolicies_eq_ok.mp hps).flip hq
        exact hv
      obtain ⟨out, hout⟩ : ∃ out, (checkMembers clock key ms ps []).2 = .ok out :=
        checkMembers_ok_of_wellFormed ms ps [] hms hpols
      rcases hc : checkMembers clock key ms ps [] with ⟨ms', out'⟩
      rw [hc] at hout
      subst hout
      simp [hc, Except.map] at h

/-! ## Checks keep the shape of a limiter -/

theorem membersWellFormed_cons (n : String) (q : Option Policy) (l : Limiter) (ms : List Member) :
    membersWellFormed (Member.mk n q l :: ms) =
      (q.all (·.validate.isOk) && l.wellFormed && membersWellFormed ms) := by
  rw [membersWellFormed]

mutual

/-- A check, failed or not, leaves a limiter as well formed as it was: members keep their
names and own policies, and composites their members. -/
theorem wellFormed_check (p : Policy) :
    ∀ l : Limiter, (l.check clock key p).1.wellFormed = l.wellFormed
  | tokenBucket b => by
      rw [check]
      cases TokenBucket.check b clock key p <;> rfl
  | slidingLog b => by
      rw [check]
      cases SlidingLog.check b clock key p <;> rfl
  | fixedWindow b => by
      rw [check]
      cases FixedWindow.check b clock key p <;> rfl
  | composite ms => by
      rw [check]
      exact wellFormed_evaluate _ ms

theorem wellFormed_evaluate (resolve : Member → Except Error Policy) (ms : List Member) :
    (evaluate clock key resolve ms).1.wellFormed = (composite ms).wellFormed := by
  rw [evaluate]
  split
  · rfl
  · split
    · rfl
    next ps _ =>
      rcases hc : checkMembers clock key ms ps [] with ⟨ms', out⟩
      have hlen := length_checkMembers ms ps []
      have hwf := membersWellFormed_checkMembers ms ps []
      rw [hc] at hlen hwf
      have hempty : ms'.isEmpty = ms.isEmpty := by
        cases ms' <;> cases ms <;> simp_all
      simp only [wellFormed, hwf, hempty]

theorem membersWellFormed_checkMembers :
    ∀ (ms : List Member) (ps : List Policy) (acc : List (String × Decision)),
      membersWellFormed (checkMembers clock key ms ps acc).1 = membersWellFormed ms
  | [], _, _ => by simp [checkMembers]
  | Member.mk _ _ _ :: _, [], _ => by simp [checkMembers]
  | Member.mk n q l :: ms, p :: ps, acc => by
      have hl := wellFormed_check p l
      rw [checkMembers]
      rcases hc : check clock key p l with ⟨l', r⟩
      rw [hc] at hl
      simp only at hl
      cases r with
      | ok d =>
          have hrest := membersWellFormed_checkMembers ms ps ((n, d) :: acc)
          rcases hr : checkMembers clock key ms ps ((n, d) :: acc) with ⟨ms', out⟩
          rw [hr] at hrest
          dsimp only
          rw [hr]
          simp only [membersWellFormed_cons, hl, hrest]
      | error e =>
          dsimp only
          simp only [membersWellFormed_cons, hl]

theorem length_checkMembers :
    ∀ (ms : List Member) (ps : List Policy) (acc : List (String × Decision)),
      (checkMembers clock key ms ps acc).1.length = ms.length
  | [], _, _ => by simp [checkMembers]
  | Member.mk _ _ _ :: _, [], _ => by simp [checkMembers]
  | Member.mk n q l :: ms, p :: ps, acc => by
      rw [checkMembers]
      rcases hc : check clock key p l with ⟨l', r⟩
      cases r with
      | ok d =>
          have hrest := length_checkMembers ms ps ((n, d) :: acc)
          rcases hr : checkMembers clock key ms ps ((n, d) :: acc) with ⟨ms', out⟩
          rw [hr] at hrest
          dsimp only
          rw [hr]
          simp [hrest]
      | error e => simp

end

theorem lift_error {τ : Type} {wrap : τ → Limiter} {self : Limiter}
    {r : Except Error (τ × Decision)} {e : Error} (h : (lift wrap self r).2 = .error e) :
    (lift wrap self r).1 = self := by
  rcases r with e' | ⟨l, d⟩
  · rfl
  · simp [lift] at h

/-- A failed check of a limiter whose members are well formed leaves the limiter as it was,
under the caller's policy as under a policy map. -/
theorem failed_check_keeps_limiter {l : Limiter} (hl : ∀ m ∈ l.members, m.limiter.wellFormed = true)
    (clock : Duration) (key : String) :
    (∀ p e, (l.check clock key p).2 = .error e → (l.check clock key p).1 = l) ∧
    (∀ M l' e, l.checkWithPolicies clock key M = some (l', .error e) → l' = l) := by
  constructor
  · intro p e h
    cases l with
    | tokenBucket b =>
        rw [check] at h ⊢
        exact lift_error h
    | slidingLog b =>
        rw [check] at h ⊢
        exact lift_error h
    | fixedWindow b =>
        rw [check] at h ⊢
        exact lift_error h
    | composite ms =>
        rw [check] at h ⊢
        exact evaluate_error_keeps hl h
  · intro M l' e h
    cases l with
    | composite ms =>
        simp only [checkWithPolicies, Option.some.injEq] at h
        have hms : ∀ m ∈ ms, m.limiter.wellFormed = true := hl
        have hkeep := evaluate_error_keeps hms (congrArg Prod.snd h)
        rw [h] at hkeep
        exact hkeep
    | _ => simp [checkWithPolicies] at h

/-- The refused policy of the caller stops the check before any member is asked. -/
theorem failed_check_keeps_limiter_zero_limit :
    let l := composite [.mk "bucket" (some (Policy.ofSecs 10 60)) (.tokenBucket .standard),
      .mk "window" none (.fixedWindow .standard)]
    (∀ m ∈ l.members, m.limiter.wellFormed = true) ∧
      (l.check (Duration.ofSecs 1000) "client" (Policy.ofSecs 0 60)).2 = .error (.policy .limitZero) ∧
      (l.check (Duration.ofSecs 1000) "client" (Policy.ofSecs 0 60)).1 = l := by
  intro l
  have hl : ∀ m ∈ l.members, m.limiter.wellFormed = true := by decide
  have hfail : (l.check (Duration.ofSecs 1000) "client" (Policy.ofSecs 0 60)).2 =
      .error (.policy .limitZero) := by
    rw [check, evaluate]
    rfl
  exact ⟨hl, hfail, (failed_check_keeps_limiter hl _ _).1 _ _ hfail⟩

end Limiter

end Throttle
