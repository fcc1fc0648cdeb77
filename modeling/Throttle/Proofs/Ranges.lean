import Throttle.Proofs.Service
import Throttle.Proofs.FixedWindow
import Throttle.Proofs.TokenBucket

/-! # Checks stay within machine ranges

Request counts, limits and remaining counts are 64-bit words, and token counts binary64
numbers. A limiter is *in range* (`Limiter.inRange`) when what it keeps fits those types:
every window count is below `2 ^ 64`, every token count is a number, every bucket limiter's
multiplier is one a bucket limiter accepts, and every member's own limit is below `2 ^ 64`.

Under policies whose limits are below `2 ^ 64`, checks, resets and evictions keep a limiter
in range, and every decision's limit and remaining count fit a word
(`checks_stay_in_range`). Within one check nothing overflows or underflows: a window count
grows only below the limit, so the remaining count is the limit less the window's count
exactly, as it is for a log; the start of a window is never past the clock, so it is exact;
and a refilled bucket is capped at its capacity, which is a number whatever the elapsed time
and rate, so no token count ever becomes not-a-number. A policy override read from any
request metadata has a limit below `2 ^ 63`, so admission control checks under policies
that fit.
-/

namespace Throttle

namespace Binary64

theorem ofRatio_ne_nan (s : Bool) (num den : Nat) : ofRatio s num den ≠ nan := by
  unfold ofRatio
  split
  · simp
  · dsimp only
    split <;> split <;> simp

theorem ofDyadic_ne_nan (s : Bool) (m : Nat) (e : Int) : ofDyadic s m e ≠ nan :=
  ofRatio_ne_nan _ _ _

theorem add_finite_ne_nan {a : Binary64} (ha : a ≠ nan) (s : Bool) (m : Nat) (e : Int) :
    a + finite s m e ≠ nan := by
  show add a (finite s m e) ≠ nan
  cases a with
  | nan => exact absurd rfl ha
  | inf t => simp [add]
  | finite t n f =>
      simp only [add]
      split
      · simp
      · exact ofDyadic_ne_nan _ _ _

theorem sub_one_ne_nan {a : Binary64} (ha : a ≠ nan) : a - 1 ≠ nan := by
  obtain ⟨m, e, -, h1, -⟩ := one_represents
  show add a (neg 1) ≠ nan
  rw [h1]
  exact add_finite_ne_nan ha true m e

/-- The smaller of two values is a number when the second is, whatever the first. -/
theorem minNum_ne_nan (a : Binary64) {b : Binary64} (hb : b ≠ nan) : minNum a b ≠ nan := by
  unfold minNum
  split
  · exact hb
  · assumption
  · split <;> assumption

/-- A multiplier that a bucket limiter accepts is finite with a nonzero significand. -/
theorem mant_ne_zero_of_accepted {m : Binary64} (hm : (!m.isFinite || m.le 0) = false) :
    ∃ s k e, m = finite s k e ∧ k ≠ 0 := by
  cases m with
  | nan => simp [isFinite] at hm
  | inf s => simp [isFinite] at hm
  | finite s k e =>
      refine ⟨s, k, e, rfl, ?_⟩
      rintro rfl
      have h0 : (0 : Binary64) = finite false 0 minExp := ofRatio_zero false 1
      cases s <;> simp [isFinite, Binary64.le, h0, compare?, aligned_false, aligned_true] at hm

/-- A count times an accepted multiplier is a number: an infinite count meets no zero. -/
theorem ofNat_mul_ne_nan {m : Binary64} (hm : (!m.isFinite || m.le 0) = false) (n : Nat) :
    ofNat n * m ≠ nan := by
  obtain ⟨s, k, e, rfl, hk⟩ := mant_ne_zero_of_accepted hm
  show mul (ofNat n) (finite s k e) ≠ nan
  cases h : ofNat n with
  | nan => exact absurd h (ofRatio_ne_nan _ _ _)
  | inf t => simp [mul, hk]
  | finite t j f => exact ofDyadic_ne_nan _ _ _

end Binary64

/-! ## Stores whose every state passes a test -/

namespace KeyStore

variable {σ α : Type}

/-- Whether every state kept in the store passes `q`. -/
def all (q : σ → Bool) (s : KeyStore σ) : Bool := s.slots.all fun x => q x.2.state

variable {q : σ → Bool} {s : KeyStore σ}

theorem all_iff : s.all q = true ↔ ∀ x ∈ s.slots, q x.2.state = true := by
  simp [all]

theorem mem_setSlot {key : String} {slot : Slot σ} {x : String × Slot σ} :
    ∀ {slots : List (String × Slot σ)}, x ∈ setSlot key slot slots → x = (key, slot) ∨ x ∈ slots
  | [], h => by
      simp only [setSlot, List.mem_singleton] at h
      exact .inl h
  | (k, y) :: rest, h => by
      unfold setSlot at h
      split at h
      · rcases List.mem_cons.mp h with rfl | h
        · exact .inl rfl
        · exact .inr (List.mem_cons_of_mem _ h)
      · rcases List.mem_cons.mp h with rfl | h
        · exact .inr List.mem_cons_self
        · rcases mem_setSlot h with h | h
          · exact .inl h
          · exact .inr (List.mem_cons_of_mem _ h)

/-- An update keeps every state passing a test that new states pass and steps keep. -/
theorem all_update (hs : s.all q = true) {init : Duration → σ} {step : σ → Duration → σ × α}
    (hinit : ∀ t, q (init t) = true) (hstep : ∀ x now, q x = true → q (step x now).1 = true)
    (key : String) (clock hold : Duration) : (s.update key clock hold init step).1.all q = true := by
  rw [update_eq, all_iff]
  intro x hx
  rcases mem_setSlot hx with rfl | hx
  · -- the visited slot holds a step from the key's state or from a new one
    apply hstep
    cases hslot : s.slot? key with
    | none => exact hinit clock
    | some slot => exact all_iff.mp hs (key, slot) (List.mem_of_lookup_eq_some hslot)
  · exact all_iff.mp hs x hx

theorem update_snd_of {P : α → Prop} {init : Duration → σ} {step : σ → Duration → σ × α}
    (hstep : ∀ x now, P (step x now).2) (key : String) (clock hold : Duration) :
    P (s.update key clock hold init step).2 := by
  rw [update_snd]
  exact hstep _ _

theorem all_erase (hs : s.all q = true) (key : String) : (s.erase key).all q = true := by
  rw [all_iff]
  intro x hx
  exact all_iff.mp hs x (List.mem_filter.mp hx).1

theorem all_evictIdle (hs : s.all q = true) (now ttl : Duration) :
    (s.evictIdle now ttl).1.all q = true := by
  rw [all_iff]
  intro x hx
  exact all_iff.mp hs x (List.mem_filter.mp hx).1

end KeyStore

/-! ## One check of each discipline -/

/-- A decision whose limit and remaining count fit a 64-bit word. -/
def Decision.Fits (d : Decision) : Prop := d.limit < UInt64.size ∧ d.remaining < UInt64.size

theorem Decision.remaining_eq_zero_of_refused {d : Decision} (h : d.allowed = false) :
    d.remaining = 0 := by
  cases hv : d.verdict <;> simp_all [Decision.allowed, Decision.remaining]

theorem Binary64.toNatClamped_lt (x : Binary64) : x.toNatClamped < UInt64.size := by
  have hsize : UInt64.size = Nat.pow 2 64 := rfl
  cases x with
  | nan => simp [toNatClamped, hsize]
  | inf s => cases s <;> simp [toNatClamped, hsize]
  | finite s m e =>
      cases s
      · simp only [toNatClamped, hsize]
        have hpos : 0 < Nat.pow 2 64 := Nat.pow_pos (by decide)
        omega
      · simp [toNatClamped, hsize]

namespace FixedWindow

/-- One count: the counter moved to the window of `now` holds `n` requests, at most it held
before; below the limit the request is admitted and counted, and the remaining count is the
limit less the new count, else the request is refused and nothing is counted. -/
theorem count_spec (p : Policy) (c : WindowCount) (now : Duration) :
    ∃ n ≤ c.count, (count p c now).2.limit = p.limit ∧
      if n < p.limit then
        (count p c now).1.count = n + 1 ∧ (count p c now).2.allowed = true ∧
          (count p c now).2.remaining = p.limit - (n + 1)
      else (count p c now).1.count = n ∧ (count p c now).2.allowed = false := by
  unfold count
  lift_lets
  extract_lets current c' reset
  have hle : c'.count ≤ c.count := by
    simp only [c']
    split <;> simp
  clear_value c' reset current
  refine ⟨c'.count, hle, ?_⟩
  split
  · simp [Decision.allow, Decision.allowed, Decision.remaining, *]
  · simp [Decision.deny, Decision.allowed, *]

theorem count_count_lt {p : Policy} (hp : p.limit < UInt64.size) {c : WindowCount}
    (hc : c.count < UInt64.size) (now : Duration) : (count p c now).1.count < UInt64.size := by
  obtain ⟨n, hn, -, hcases⟩ := count_spec p c now
  split at hcases
  · omega
  · omega

theorem count_fits {p : Policy} (hp : p.limit < UInt64.size) (c : WindowCount) (now : Duration) :
    (count p c now).2.Fits := by
  obtain ⟨n, -, hlimit, hcases⟩ := count_spec p c now
  unfold Decision.Fits
  rw [hlimit]
  split at hcases
  · obtain ⟨-, -, hrem⟩ := hcases
    omega
  · obtain ⟨-, hrefused⟩ := hcases
    simp only [Decision.remaining_eq_zero_of_refused hrefused]
    omega

/-- An admitted count leaves the limit less the window's count remaining, exactly. -/
theorem remaining_add_count (p : Policy) (c : WindowCount) (now : Duration)
    (h : (count p c now).2.allowed = true) :
    (count p c now).2.remaining + (count p c now).1.count = p.limit := by
  obtain ⟨n, -, -, hcases⟩ := count_spec p c now
  split at hcases
  · obtain ⟨hcount, -, hrem⟩ := hcases
    omega
  · obtain ⟨-, hrefused⟩ := hcases
    rw [hrefused] at h
    cases h

end FixedWindow

namespace SlidingLog

/-- One record: below the limit the remaining count is the limit less the live entries and
the new one, exactly. -/
theorem record_spec (M : Nat) (p : Policy) (log : List Duration) (now : Duration) :
    (record M p log now).2.limit = p.limit ∧ (record M p log now).2.remaining ≤ p.limit ∧
      ((record M p log now).2.allowed = true →
        (record M p log now).2.remaining + (prune p.window now log).length + 1 = p.limit) := by
  unfold record
  dsimp only
  split
  · simp only [Decision.allow, Decision.allowed, Decision.remaining, forall_const, true_and]
    constructor <;> omega
  · simp [Decision.deny, Decision.allowed, Decision.remaining]

theorem record_fits {p : Policy} (hp : p.limit < UInt64.size) (M : Nat) (log : List Duration)
    (now : Duration) : (record M p log now).2.Fits := by
  obtain ⟨hlimit, hrem, -⟩ := record_spec M p log now
  unfold Decision.Fits
  omega

end SlidingLog

namespace TokenBucket

theorem take_tokens_ne_nan {C : Binary64} (hC : C ≠ .nan) (p : Policy) (rate : Binary64)
    (bucket : Bucket) (now : Duration) : (take p C rate bucket now).1.tokens ≠ .nan := by
  have hrefill : refill C rate bucket now ≠ .nan := Binary64.minNum_ne_nan _ hC
  rw [take_fst]
  dsimp only
  split
  · exact Binary64.sub_one_ne_nan hrefill
  · exact hrefill

theorem take_fits {p : Policy} (hp : p.limit < UInt64.size) (C rate : Binary64) (bucket : Bucket)
    (now : Duration) : (take p C rate bucket now).2.Fits := by
  have hlimit : (take p C rate bucket now).2.limit = p.limit := by
    unfold take
    dsimp only
    split <;> rfl
  refine ⟨hlimit ▸ hp, ?_⟩
  rw [take_remaining]
  split
  · exact Binary64.toNatClamped_lt _
  · exact Nat.pos_of_ne_zero (by decide)

end TokenBucket

/-! ## Limiters in range -/

theorem Binary64.isNaN_eq_false {x : Binary64} : x.isNaN = false ↔ x ≠ .nan := by
  cases x <;> simp [Binary64.isNaN]

/-- Every request limit of the table fits a 64-bit word. -/
def PolicyTable.LimitsFit (t : PolicyTable) : Prop :=
  t.default.limit < UInt64.size ∧ ∀ x ∈ t.tiers, x.2.limit < UInt64.size

namespace Limiter

mutual

/-- Whether what the limiter keeps fits the machine types that hold it: a bucket limiter's
multiplier is one it accepts and its token counts are numbers, every window count fits a
64-bit word, and so does every member's own limit. -/
def inRange : Limiter → Bool
  | tokenBucket b =>
    !(!b.multiplier.isFinite || b.multiplier.le 0) && b.buckets.all (!·.tokens.isNaN)
  | slidingLog _ => true
  | fixedWindow f => f.counters.all fun c => decide (c.count < UInt64.size)
  | composite ms => membersInRange ms

/-- Whether every member's own limit fits a word and every member's limiter is in range. -/
def membersInRange : List Member → Bool
  | [] => true
  | Member.mk _ q l :: ms =>
    q.all (fun p => decide (p.limit < UInt64.size)) && inRange l && membersInRange ms

end

theorem membersInRange_cons (n : String) (q : Option Policy) (l : Limiter) (ms : List Member) :
    membersInRange (Member.mk n q l :: ms) =
      (q.all (fun p => decide (p.limit < UInt64.size)) && l.inRange && membersInRange ms) := by
  rw [membersInRange]

theorem membersInRange_iff {ms : List Member} :
    membersInRange ms = true ↔
      ∀ m ∈ ms, (∀ q, m.policy = some q → q.limit < UInt64.size) ∧ m.limiter.inRange = true := by
  induction ms with
  | nil => simp [membersInRange]
  | cons m ms ih =>
      obtain ⟨n, q, l⟩ := m
      simp [membersInRange_cons, ih, Member.policy, Member.limiter, Option.all_eq_true, and_assoc]

theorem min?_getD_lt {xs : List Nat} {b : Nat} (h : ∀ x ∈ xs, x < b) (hb : 0 < b) :
    xs.min?.getD 0 < b := by
  cases hm : xs.min? with
  | none => exact hb
  | some a => exact h a (List.min?_mem hm)

/-- The combined decision's limit and remaining count are the least of the members', so
they fit when the members' do. -/
theorem combine_fits {rs : List (String × Decision)} (h : ∀ r ∈ rs, r.2.Fits) :
    (combine rs).Fits := by
  have hpos : 0 < UInt64.size := by decide
  have hlimit : (rs.map (·.2.limit)).min?.getD 0 < UInt64.size :=
    min?_getD_lt (fun x hx => by
      obtain ⟨r, hr, rfl⟩ := List.mem_map.mp hx
      exact (h r hr).1) hpos
  have hrem : (rs.map (·.2.remaining)).min?.getD 0 < UInt64.size :=
    min?_getD_lt (fun x hx => by
      obtain ⟨r, hr, rfl⟩ := List.mem_map.mp hx
      exact (h r hr).2) hpos
  unfold combine
  dsimp only
  split
  · exact ⟨hlimit, hrem⟩
  · exact ⟨hlimit, hpos⟩

end Limiter

namespace Keyed

variable {σ : Type} (D : Keyed σ) {q : σ → Bool}

/-- A keyed limiter whose stored states pass `q` stays in range through a check under a
policy whose new states pass `q`, whose steps keep it and whose decisions fit. -/
theorem check_stays (hrebuild : ∀ st : KeyStore σ, st.all q = true → (D.rebuild st).inRange = true)
    {p : Policy} (hinit : ∀ t, q (D.init p t) = true)
    (hstep : ∀ x now, q x = true → q (D.step p x now).1 = true)
    (hfits : ∀ x now, (D.step p x now).2.Fits) {st : KeyStore σ} (hst : st.all q = true)
    (clock : Duration) (key : String) :
    ((D.rebuild st).check clock key p).1.inRange = true ∧
      ∀ d, ((D.rebuild st).check clock key p).2 = .ok d → d.Fits := by
  cases hv : p.validate with
  | error e =>
      rw [D.check_error st clock key p e hv]
      exact ⟨hrebuild st hst, fun d hd => by cases hd⟩
  | ok u =>
      rw [D.check_ok st clock key p hv]
      refine ⟨hrebuild _ (KeyStore.all_update hst hinit hstep key clock (D.hold p)), ?_⟩
      rintro d ⟨⟩
      exact KeyStore.update_snd_of hfits key clock (D.hold p)

theorem reset_stays (hrebuild : ∀ st : KeyStore σ, st.all q = true → (D.rebuild st).inRange = true)
    {st : KeyStore σ} (hst : st.all q = true) (key : String) :
    ((D.rebuild st).reset key).inRange = true := by
  rw [D.reset_eq]
  exact hrebuild _ (KeyStore.all_erase hst key)

theorem evictIdle_stays (hrebuild : ∀ st : KeyStore σ, st.all q = true → (D.rebuild st).inRange = true)
    {st : KeyStore σ} (hst : st.all q = true) (now ttl : Duration) :
    ((D.rebuild st).evictIdle now ttl).1.inRange = true := by
  rw [D.evictIdle_eq]
  exact hrebuild _ (KeyStore.all_evictIdle hst now ttl)

end Keyed

namespace Limiter

theorem inRange_tokenBucket {m : Binary64} {st : KeyStore Bucket} :
    (tokenBucket ⟨m, st⟩).inRange = true ↔
      (!m.isFinite || m.le 0) = false ∧ st.all (!·.tokens.isNaN) = true := by
  simp [inRange]

theorem inRange_fixedWindow {st : KeyStore WindowCount} :
    (fixedWindow ⟨st⟩).inRange = true ↔ st.all (fun c => decide (c.count < UInt64.size)) = true := by
  simp [inRange]

/-! ### The three disciplines -/

section Disciplines

variable {p : Policy} (hp : p.limit < UInt64.size) (clock : Duration) (key : String)
include hp

/-- A bucket's capacity and refills are numbers, so its token counts stay numbers. -/
theorem tokenBucket_check_stays {m : Binary64} {st : KeyStore Bucket}
    (h : (tokenBucket ⟨m, st⟩).inRange = true) :
    ((tokenBucket ⟨m, st⟩).check clock key p).1.inRange = true ∧
      ∀ d, ((tokenBucket ⟨m, st⟩).check clock key p).2 = .ok d → d.Fits := by
  obtain ⟨hm, hst⟩ := inRange_tokenBucket.mp h
  have hcap : TokenBucket.capacity ⟨m, .empty⟩ p ≠ .nan := Binary64.ofNat_mul_ne_nan hm p.limit
  refine (TokenBucket.keyed m).check_stays (fun st' hst' => inRange_tokenBucket.mpr ⟨hm, hst'⟩)
    (fun t => ?_) (fun x now _ => ?_) (fun x now => TokenBucket.take_fits hp _ _ x now) hst clock key
  · simpa [TokenBucket.keyed] using Binary64.isNaN_eq_false.mpr hcap
  · simpa [TokenBucket.keyed] using
      Binary64.isNaN_eq_false.mpr (TokenBucket.take_tokens_ne_nan hcap p p.rate x now)

theorem slidingLog_check_stays (n : Nat) (st : KeyStore (List Duration)) :
    ((slidingLog ⟨n, st⟩).check clock key p).1.inRange = true ∧
      ∀ d, ((slidingLog ⟨n, st⟩).check clock key p).2 = .ok d → d.Fits :=
  (SlidingLog.keyed n).check_stays
    (fun (st' : KeyStore (List Duration)) (_ : st'.all (fun _ => true) = true) => rfl)
    (fun _ => rfl) (fun _ _ _ => rfl) (fun x now => SlidingLog.record_fits hp n x now)
    (by simp [KeyStore.all]) clock key

/-- A window count grows only below the limit, so it stays below `2 ^ 64`. -/
theorem fixedWindow_check_stays {st : KeyStore WindowCount}
    (h : (fixedWindow ⟨st⟩).inRange = true) :
    ((fixedWindow ⟨st⟩).check clock key p).1.inRange = true ∧
      ∀ d, ((fixedWindow ⟨st⟩).check clock key p).2 = .ok d → d.Fits := by
  refine FixedWindow.keyed.check_stays (fun st' hst' => inRange_fixedWindow.mpr hst')
    (fun t => ?_) (fun x now hx => ?_) (fun x now => FixedWindow.count_fits hp x now)
    (inRange_fixedWindow.mp h) clock key
  · simp [FixedWindow.keyed]
  · exact decide_eq_true (FixedWindow.count_count_lt hp (of_decide_eq_true hx) now)

end Disciplines

/-! ### Composites -/

variable {clock : Duration} {key : String}

mutual

/-- A check under a policy whose limit fits a word keeps a limiter in range and answers in
range. -/
theorem check_stays {p : Policy} (hp : p.limit < UInt64.size) :
    ∀ l : Limiter, l.inRange = true →
      (l.check clock key p).1.inRange = true ∧ ∀ d, (l.check clock key p).2 = .ok d → d.Fits
  | tokenBucket ⟨_, _⟩, h => tokenBucket_check_stays hp clock key h
  | slidingLog ⟨n, st⟩, _ => slidingLog_check_stays hp clock key n st
  | fixedWindow ⟨_⟩, h => fixedWindow_check_stays hp clock key h
  | composite ms, h => by
      rw [check]
      refine evaluate_stays _ ms (fun m hm q hq => ?_) h
      -- a member checks under its own policy, or else under the caller's
      cases hmq : m.policy with
      | none =>
          simp only [hmq, Option.getD_none, Except.ok.injEq] at hq
          exact hq ▸ hp
      | some q' =>
          simp only [hmq, Option.getD_some, Except.ok.injEq] at hq
          exact hq ▸ ((membersInRange_iff.mp h) m hm).1 q' hmq

theorem evaluate_stays (resolve : Member → Except Error Policy) (ms : List Member)
    (hres : ∀ m ∈ ms, ∀ q, resolve m = .ok q → q.limit < UInt64.size)
    (h : membersInRange ms = true) :
    (evaluate clock key resolve ms).1.inRange = true ∧
      ∀ d, (evaluate clock key resolve ms).2 = .ok d → d.Fits := by
  rw [evaluate]
  split
  · exact ⟨h, fun d hd => by cases hd⟩
  · split
    · exact ⟨h, fun d hd => by cases hd⟩
    next ps hps =>
      have hbound : ∀ q ∈ ps, q.limit < UInt64.size := by
        intro q hq
        obtain ⟨m, hm, hmq, -⟩ := exists_of_forall₂ (memberPolicies_eq_ok.mp hps).flip hq
        exact hres m hm q hmq
      have hrest := checkMembers_stays ms ps [] hbound (by simp) h
      rcases hc : checkMembers clock key ms ps [] with ⟨ms', out⟩
      rw [hc] at hrest
      refine ⟨hrest.1, ?_⟩
      intro d hd
      cases out with
      | error e => cases hd
      | ok rs =>
          cases hd
          exact combine_fits (hrest.2 rs rfl)

theorem checkMembers_stays :
    ∀ (ms : List Member) (ps : List Policy) (acc : List (String × Decision)),
      (∀ q ∈ ps, q.limit < UInt64.size) → (∀ r ∈ acc, r.2.Fits) → membersInRange ms = true →
      membersInRange (checkMembers clock key ms ps acc).1 = true ∧
        ∀ out, (checkMembers clock key ms ps acc).2 = .ok out → ∀ r ∈ out, r.2.Fits
  | [], _, acc, _, hacc, h => by
      simp only [checkMembers]
      refine ⟨h, fun out hout r hr => ?_⟩
      cases hout
      exact hacc r (List.mem_reverse.mp hr)
  | Member.mk _ _ _ :: _, [], acc, _, hacc, h => by
      simp only [checkMembers]
      refine ⟨h, fun out hout r hr => ?_⟩
      cases hout
      exact hacc r (List.mem_reverse.mp hr)
  | Member.mk n q l :: ms, p :: ps, acc, hps, hacc, h => by
      rw [membersInRange_cons, Bool.and_eq_true, Bool.and_eq_true] at h
      obtain ⟨⟨hq, hl⟩, hms⟩ := h
      have hl' := check_stays (hps p List.mem_cons_self) l hl
      rw [checkMembers]
      rcases hc : check clock key p l with ⟨l', r⟩
      rw [hc] at hl'
      cases r with
      | ok d =>
          have hrest := checkMembers_stays ms ps ((n, d) :: acc)
            (fun q' hq' => hps q' (List.mem_cons_of_mem _ hq'))
            (fun r hr => (List.mem_cons.mp hr).elim (fun h => h ▸ hl'.2 d rfl) (hacc r)) hms
          rcases hr : checkMembers clock key ms ps ((n, d) :: acc) with ⟨ms', out⟩
          rw [hr] at hrest
          dsimp only
          rw [hr]
          refine ⟨?_, hrest.2⟩
          simp only [membersInRange_cons, hq, hl'.1, hrest.1, Bool.and_self]
      | error e =>
          dsimp only
          refine ⟨?_, fun out hout => by cases hout⟩
          simp only [membersInRange_cons, hq, hl'.1, hms, Bool.and_self]

end

/-- A check with a policy per member name, each limit fitting a word, keeps a composite in
range and answers in range. -/
theorem checkWithPolicies_stays {l : Limiter} (h : l.inRange = true) {M : List (String × Policy)}
    (hM : ∀ x ∈ M, x.2.limit < UInt64.size) {l' : Limiter} {out : Except Error Decision}
    (hc : l.checkWithPolicies clock key M = some (l', out)) :
    l'.inRange = true ∧ ∀ d, out = .ok d → d.Fits := by
  cases l with
  | composite ms =>
      obtain ⟨resolve, hresolve, hcheck⟩ := checkWithPolicies_composite clock key M ms
      rw [hcheck, Option.some.injEq] at hc
      -- a member checks under the policy named for it, or else under its own
      have hbound : ∀ m ∈ ms, ∀ q, resolve m = .ok q → q.limit < UInt64.size := by
        intro m hm q hq
        rcases hresolve m q hq with hq' | ⟨-, hq'⟩
        · exact hM (m.name, q) (List.mem_of_lookup_eq_some hq')
        · exact ((membersInRange_iff.mp h) m hm).1 q hq'
      have hres : (evaluate clock key resolve ms).1.inRange = true ∧
          ∀ d, (evaluate clock key resolve ms).2 = .ok d → d.Fits :=
        evaluate_stays resolve ms hbound h
      rw [hc] at hres
      exact hres
  | _ => simp [checkWithPolicies] at hc

mutual

theorem reset_stays (key : String) : ∀ l : Limiter, l.inRange = true → (l.reset key).inRange = true
  | tokenBucket ⟨m, _⟩, h => by
      obtain ⟨hm, hst⟩ := inRange_tokenBucket.mp h
      exact (TokenBucket.keyed m).reset_stays (fun st' hst' => inRange_tokenBucket.mpr ⟨hm, hst'⟩) hst key
  | slidingLog _, _ => rfl
  | fixedWindow ⟨_⟩, h =>
      FixedWindow.keyed.reset_stays (fun st' hst' => inRange_fixedWindow.mpr hst')
        (inRange_fixedWindow.mp h) key
  | composite ms, h => by
      rw [reset]
      exact resetMembers_stays key ms h

theorem resetMembers_stays (key : String) :
    ∀ ms : List Member, membersInRange ms = true → membersInRange (resetMembers key ms) = true
  | [], _ => rfl
  | Member.mk n q l :: ms, h => by
      rw [membersInRange_cons, Bool.and_eq_true, Bool.and_eq_true] at h
      obtain ⟨⟨hq, hl⟩, hms⟩ := h
      rw [resetMembers, membersInRange_cons, hq, reset_stays key l hl, resetMembers_stays key ms hms]
      rfl

end

mutual

theorem evictIdle_stays (now ttl : Duration) :
    ∀ l : Limiter, l.inRange = true → (l.evictIdle now ttl).1.inRange = true
  | tokenBucket ⟨m, _⟩, h => by
      obtain ⟨hm, hst⟩ := inRange_tokenBucket.mp h
      exact (TokenBucket.keyed m).evictIdle_stays (fun st' hst' => inRange_tokenBucket.mpr ⟨hm, hst'⟩)
        hst now ttl
  | slidingLog _, _ => rfl
  | fixedWindow ⟨_⟩, h =>
      FixedWindow.keyed.evictIdle_stays (fun st' hst' => inRange_fixedWindow.mpr hst')
        (inRange_fixedWindow.mp h) now ttl
  | composite ms, h => by
      rw [evictIdle]
      exact evictMembers_stays now ttl ms h

theorem evictMembers_stays (now ttl : Duration) :
    ∀ ms : List Member, membersInRange ms = true → membersInRange (evictMembers now ttl ms).1 = true
  | [], _ => rfl
  | Member.mk n q l :: ms, h => by
      rw [membersInRange_cons, Bool.and_eq_true, Bool.and_eq_true] at h
      obtain ⟨⟨hq, hl⟩, hms⟩ := h
      show membersInRange (Member.mk n q (evictIdle now ttl l).1 :: (evictMembers now ttl ms).1) = true
      rw [membersInRange_cons, hq, evictIdle_stays now ttl l hl, evictMembers_stays now ttl ms hms]
      rfl

end

end Limiter

/-! ## Policies read from requests -/

theorem Json.Value.toI64_lt {v : Json.Value} {i : Int} (h : v.toI64 = .ok i) : i < Int.pow 2 63 := by
  cases v with
  | int j =>
      simp only [Json.Value.toI64] at h
      split at h
      · cases h
        assumption
      · cases h
  | _ => cases h

theorem Json.Value.toOption_eq_ok_some {α : Type} {f : Json.Value → Json.Decoded α}
    {v : Json.Value} {a : α} (h : Json.Value.toOption f v = .ok (some a)) : f v = .ok a := by
  unfold Json.Value.toOption at h
  split at h
  · cases h
  · cases hf : f v with
    | error e => simp [hf, Functor.map, Except.map] at h
    | ok b =>
        simp only [hf, Functor.map, Except.map, Except.ok.injEq, Option.some.injEq] at h
        rw [h]

theorem Json.FieldSet.withDefault_eq_ok_some {α : Type} {fs : Json.FieldSet} {name : String}
    {f : Json.Value → Json.Decoded (Option α)} {a : α}
    (h : fs.withDefault name none f = .ok (some a)) : ∃ v, f v = .ok (some a) := by
  unfold Json.FieldSet.withDefault at h
  split at h
  · exact ⟨_, h⟩
  · cases h

namespace Override

/-- The requests of an override read from any value are a 64-bit signed integer. -/
theorem requests_lt {v : Json.Value} {o : Override} (h : ofJson v = .ok o) {r : Int}
    (hr : o.requests = some r) : r < Int.pow 2 63 := by
  have hd : decode v = .ok o := by
    unfold ofJson at h
    cases hdec : decode v with
    | error e => simp [hdec, Except.mapError] at h
    | ok o' =>
        simp only [hdec, Except.mapError, Except.ok.injEq] at h
        rw [h]
  simp only [decode, Except.bind_eq_ok, Except.pure_eq_ok] at hd
  obtain ⟨fs, -, u, -, requests, hreq, window, -, u', -, rfl⟩ := hd
  subst hr
  obtain ⟨w, hw⟩ := Json.FieldSet.withDefault_eq_ok_some hreq
  exact Json.Value.toI64_lt (Json.Value.toOption_eq_ok_some hw)

/-- An override whose requests are a signed 64-bit integer keeps a limit that fits a word. -/
theorem apply_limit_lt {o : Override} {base q : Policy} (hb : base.limit < UInt64.size)
    (hreq : ∀ r, o.requests = some r → r < Int.pow 2 63) (h : o.apply base = .ok q) :
    q.limit < UInt64.size := by
  rcases (apply_eq_ok h).1 with ⟨-, hq⟩ | ⟨r, hr, -, hq⟩
  · exact hq ▸ hb
  · have hr' := hreq r hr
    have h63 : Int.pow 2 63 < Int.pow 2 64 := by decide
    have hsize : (UInt64.size : Int) = Int.pow 2 64 := rfl
    omega

end Override

/-- A request's policy under a table whose limits fit a word fits a word, whatever
override its metadata holds. -/
theorem Admission.Control.policyFor_limit_lt {c : Admission.Control} (ht : c.policies.LimitsFit)
    {r : Admission.Request} {p : Policy} (h : c.policyFor r = .ok p) : p.limit < UInt64.size := by
  have hbase : (c.policies.resolve r.tier).limit < UInt64.size :=
    @PolicyTable.resolve_of_forall (fun p => p.limit < UInt64.size) c.policies ht.1 ht.2 r.tier
  rcases Admission.Control.policyFor_eq_ok h with ⟨-, rfl⟩ | ⟨v, o, -, ho, happly⟩
  · exact hbase
  · exact Override.apply_limit_lt hbase (fun r' hr' => Override.requests_lt ho hr') happly

/-! ## Everything a check computes fits -/

open Limiter in
/-- Under policies whose limits fit a 64-bit word, checks (with the caller's policy, with a
policy map, or through admission control under a table that fits, whatever override the
request carries), resets and evictions keep an in-range limiter in range, and every decision
they answer fits a word. Within one check nothing overflows or underflows: an admitted
window or log leaves exactly the limit less what it counts, and a window starts at the exact
multiple of its length. -/
theorem checks_stay_in_range {l : Limiter} (hl : l.inRange = true) :
    (∀ clock key p, p.limit < UInt64.size →
      (l.check clock key p).1.inRange = true ∧ ∀ d, (l.check clock key p).2 = .ok d → d.Fits) ∧
    (∀ clock key M l' out, (∀ x ∈ M, x.2.limit < UInt64.size) →
      l.checkWithPolicies clock key M = some (l', out) →
        l'.inRange = true ∧ ∀ d, out = .ok d → d.Fits) ∧
    (∀ key, (l.reset key).inRange = true) ∧
    (∀ now ttl, (l.evictIdle now ttl).1.inRange = true) ∧
    (∀ keyOf (t : PolicyTable) now r p, t.LimitsFit →
      (Admission.Control.mk l keyOf t).policyFor r = .ok p →
        ((Admission.Control.mk l keyOf t).check now r p).1.limiter.inRange = true ∧
          ∀ d, ((Admission.Control.mk l keyOf t).check now r p).2 = .ok d → d.Fits) ∧
    (∀ p c now, (FixedWindow.count p c now).2.allowed = true →
      (FixedWindow.count p c now).2.remaining + (FixedWindow.count p c now).1.count = p.limit) ∧
    (∀ M p log now, (SlidingLog.record M p log now).2.allowed = true →
      (SlidingLog.record M p log now).2.remaining + (SlidingLog.prune p.window now log).length + 1 =
        p.limit) ∧
    (∀ now w : Duration, (FixedWindow.windowStart now w).nanos = now.nanos / w.nanos * w.nanos) := by
  refine ⟨fun clock key p hp => check_stays hp l hl,
    fun clock key M l' out hM hc => checkWithPolicies_stays hl hM hc,
    fun key => reset_stays key l hl, fun now ttl => evictIdle_stays now ttl l hl, ?admission,
    FixedWindow.remaining_add_count, fun M p log now => (SlidingLog.record_spec M p log now).2.2,
    fun now w => FixedWindow.nanos_windowStart⟩
  case admission =>
    -- the request's policy fits, and the control's check is the limiter's
    intro keyOf t now r p ht hp
    exact check_stays (Admission.Control.policyFor_limit_lt ht hp) l hl

/-- The override of a caller asking for one request per the longest window a signed 64-bit
integer of seconds can name gives a whole policy, and a check under it keeps a composite of a
bucket and a window in range. -/
theorem checks_stay_in_range_longest_window :
    let l : Limiter :=
      .composite [.mk "burst" none (.tokenBucket .standard), .mk "window" none (.fixedWindow .standard)]
    let r : Admission.Request := ({} : Admission.Request).withMetadata Admission.limitsField
      (.obj [("requests", .int 1), ("window", .int (Int.pow 2 63 - 1))])
    let p : Policy := ⟨1, Duration.ofSecs (Nat.pow 2 63 - 1)⟩
    l.inRange = true ∧ PolicyTable.standard.LimitsFit ∧
      (Admission.Control.mk l Admission.Request.standardKey .standard).policyFor r = .ok p ∧
      ((Admission.Control.mk l Admission.Request.standardKey .standard).check Duration.max r p).1.limiter.inRange =
        true := by
  intro l r p
  have hl : l.inRange = true := by decide +kernel
  have ht : PolicyTable.standard.LimitsFit := by
    unfold PolicyTable.LimitsFit
    decide
  have hp : (Admission.Control.mk l Admission.Request.standardKey .standard).policyFor r = .ok p := by
    rfl
  exact ⟨hl, ht, hp, ((checks_stay_in_range hl).2.2.2.2.1 _ _ _ _ _ ht hp).1⟩

end Throttle
