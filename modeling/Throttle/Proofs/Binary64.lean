import Mathlib
import Throttle.Binary64.Basic

/-! # Binary64 values and rounding

The value of a finite datum is `± mant * 2 ^ exp`. A nonnegative value is representable
when it is `m * 2 ^ e` with a significand below `2 ^ 53` and an exponent in the finite
range; `Represents x v` says that `x` is the finite nonnegative datum of value `v`, with
fields in that range.

Main statements: `ofRatio` rounds a ratio to a value between any two representable values
around it (`le_ofRatio`, `ofRatio_le`), so a representable ratio is rounded exactly
(`ofRatio_exact`). Sums, differences and products of such data are ratios rounded once, so
they are exact whenever their value is representable; in particular taking one from a
value between one and `2 ^ 53` is exact (`sub_one_represents`), while above `2 ^ 53` it can
round back.
-/

namespace Throttle

namespace Binary64

/-- The value of a finite datum; infinities and not-a-number have none and read as zero. -/
def toRat : Binary64 → ℚ
  | finite s m e => (if s then -1 else 1) * ((m : ℚ) * 2 ^ e)
  | _ => 0

/-- A significand and exponent that a finite datum can carry. -/
def Fits (m : ℕ) (e : ℤ) : Prop := m < 2 ^ 53 ∧ minExp ≤ e ∧ e ≤ maxExp

/-- A nonnegative value that a finite datum can hold exactly. -/
def Representable (v : ℚ) : Prop := ∃ m e, Fits m e ∧ v = m * 2 ^ e

/-- The datum is finite and nonnegative, of value `v`, with fields in range. -/
def Represents (x : Binary64) (v : ℚ) : Prop := ∃ m e, Fits m e ∧ x = finite false m e ∧ v = m * 2 ^ e

theorem Represents.representable {x : Binary64} {v : ℚ} (h : x.Represents v) :
    Representable v := by
  obtain ⟨m, e, hfit, -, rfl⟩ := h
  exact ⟨m, e, hfit, rfl⟩

theorem Represents.toRat_eq {x : Binary64} {v : ℚ} (h : x.Represents v) : x.toRat = v := by
  obtain ⟨m, e, -, rfl, rfl⟩ := h
  simp [toRat]

theorem Represents.unique {x : Binary64} {u v : ℚ} (hu : x.Represents u) (hv : x.Represents v) :
    u = v :=
  hu.toRat_eq.symm.trans hv.toRat_eq

theorem Represents.nonneg {x : Binary64} {v : ℚ} (h : x.Represents v) : 0 ≤ v := by
  obtain ⟨m, e, -, -, rfl⟩ := h
  positivity

theorem representable_zero : Representable 0 := ⟨0, minExp, ⟨by norm_num, le_rfl, by decide⟩, by simp⟩

theorem zero_represents : zero.Represents 0 :=
  ⟨0, minExp, ⟨by norm_num, le_rfl, by decide⟩, rfl, by simp⟩

/-! ## Powers of two with an integer exponent -/

theorem two_zpow_eq_div (t : ℤ) : (2 : ℚ) ^ t = 2 ^ t.toNat / 2 ^ (-t).toNat := by
  rcases le_total 0 t with ht | ht
  · rw [Int.toNat_of_nonpos (show -t ≤ 0 by omega), pow_zero, div_one, ← zpow_natCast,
      Int.toNat_of_nonneg ht]
  · rw [Int.toNat_of_nonpos ht, pow_zero, one_div, ← zpow_natCast,
      Int.toNat_of_nonneg (show 0 ≤ -t by omega), zpow_neg, inv_inv]

theorem two_zpow_pos (t : ℤ) : (0 : ℚ) < 2 ^ t := zpow_pos (by norm_num) t

theorem two_zpow_le_two_zpow {s t : ℤ} (h : s ≤ t) : (2 : ℚ) ^ s ≤ 2 ^ t :=
  zpow_le_zpow_right₀ (by norm_num) h

/-- The ratio that `ofRatio` scales by `2 ^ -e`, written as the quotient of the two
natural numbers it compares. -/
theorem scaled_ratio (num den : ℕ) (e : ℤ) :
    ((num * 2 ^ (-e).toNat : ℕ) : ℚ) / ((den * 2 ^ e.toNat : ℕ) : ℚ) =
      (num : ℚ) / den * 2 ^ (-e) := by
  rw [two_zpow_eq_div (-e), neg_neg]
  push_cast
  rw [mul_div_mul_comm]

/-! ## The binade of a ratio -/

/-- `floorLog2` finds the binade of the ratio. -/
theorem floorLog2_spec {num den : ℕ} (hnum : 0 < num) (hden : 0 < den) :
    (2 : ℚ) ^ floorLog2 num den ≤ (num : ℚ) / den ∧
      (num : ℚ) / den < 2 ^ (floorLog2 num den + 1) := by
  have hn := Nat.log2_self_le (Nat.pos_iff_ne_zero.mp hnum)
  have hn' := @Nat.lt_log2_self num
  have hd := Nat.log2_self_le (Nat.pos_iff_ne_zero.mp hden)
  have hd' := @Nat.lt_log2_self den
  set t : ℤ := (num.log2 : ℤ) - (den.log2 : ℤ) with ht
  have hdenq : (0 : ℚ) < den := by exact_mod_cast hden
  -- the ratio lies strictly between `2 ^ (t - 1)` and `2 ^ (t + 1)`
  have hlow : (2 : ℚ) ^ (t - 1) < (num : ℚ) / den := by
    rw [lt_div_iff₀ hdenq, ht, show (num.log2 : ℤ) - den.log2 - 1 = num.log2 - (den.log2 + 1 : ℕ)
      by push_cast; ring, zpow_sub₀ (by norm_num), zpow_natCast, zpow_natCast,
      div_mul_eq_mul_div, div_lt_iff₀ (by positivity)]
    have h1 : ((2 ^ num.log2 : ℕ) : ℚ) ≤ num := by exact_mod_cast hn
    have h2 : (den : ℚ) < ((2 ^ (den.log2 + 1) : ℕ) : ℚ) := by exact_mod_cast hd'
    push_cast at h1 h2
    nlinarith [pow_pos (show (0 : ℚ) < 2 by norm_num) num.log2]
  have hhigh : (num : ℚ) / den < 2 ^ (t + 1) := by
    rw [div_lt_iff₀ hdenq, ht, show (num.log2 : ℤ) - den.log2 + 1 = (num.log2 + 1 : ℕ) - den.log2
      by push_cast; ring, zpow_sub₀ (by norm_num), zpow_natCast, zpow_natCast,
      div_mul_eq_mul_div, lt_div_iff₀ (by positivity)]
    have h1 : (num : ℚ) < ((2 ^ (num.log2 + 1) : ℕ) : ℚ) := by exact_mod_cast hn'
    have h2 : ((2 ^ den.log2 : ℕ) : ℚ) ≤ den := by exact_mod_cast hd
    push_cast at h1 h2
    nlinarith [pow_pos (show (0 : ℚ) < 2 by norm_num) den.log2]
  -- the definition's test compares the ratio with `2 ^ t`
  have htest : den * Nat.pow 2 t.toNat ≤ num * Nat.pow 2 (-t).toNat ↔ (2 : ℚ) ^ t ≤ num / den := by
    rw [two_zpow_eq_div t, div_le_div_iff₀ (by positivity) hdenq]
    simp only [Nat.pow_eq]
    constructor
    · intro h
      have h' : ((den * 2 ^ t.toNat : ℕ) : ℚ) ≤ ((num * 2 ^ (-t).toNat : ℕ) : ℚ) := by exact_mod_cast h
      push_cast at h'
      linarith
    · intro h
      have h' : ((den * 2 ^ t.toNat : ℕ) : ℚ) ≤ ((num * 2 ^ (-t).toNat : ℕ) : ℚ) := by
        push_cast
        linarith
      exact_mod_cast h'
  unfold floorLog2
  simp only [← ht]
  split
  · exact ⟨htest.mp ‹_›, hhigh⟩
  · refine ⟨hlow.le, ?_⟩
    rw [sub_add_cancel]
    exact lt_of_not_ge (fun h => ‹¬_› (htest.mpr h))

/-! ## Rounding a ratio

For a positive ratio `x`, `ofRatio` picks the exponent `lastExp` of the last place kept (the
binade's, or the least one below the normal range) and rounds `x * 2 ^ -lastExp` to a whole
significand `roundedSig`; a significand of `2 ^ 53` moves to the next binade. -/

theorem div_le_roundHalfEven (a b : ℕ) : a / b ≤ roundHalfEven a b := by
  unfold roundHalfEven
  dsimp only
  split_ifs <;> omega

theorem roundHalfEven_le_of_le_mul {a b j : ℕ} (hb : 0 < b) (h : a ≤ j * b) :
    roundHalfEven a b ≤ j := by
  have hdiv := Nat.div_add_mod a b
  have hq : a / b ≤ j := Nat.div_le_of_le_mul (by rwa [Nat.mul_comm])
  by_cases hr : a % b = 0
  · unfold roundHalfEven
    simp only [hr, Nat.mul_zero, hb, if_true]
    exact hq
  · -- a remainder puts the quotient strictly below `j`
    have hlt : a / b < j := by
      by_contra hge
      have : j * b ≤ a / b * b := Nat.mul_le_mul_right b (by omega)
      have : a / b * b < a := by rw [Nat.mul_comm]; omega
      omega
    unfold roundHalfEven
    dsimp only
    split_ifs <;> omega

/-- The exponent of the last place `ofRatio` keeps of a positive ratio. -/
def lastExp (num den : ℕ) : ℤ := max (floorLog2 num den - 52) minExp

/-- The significand `ofRatio` rounds a positive ratio to, before a carry into the next
binade. -/
def roundedSig (num den : ℕ) : ℕ :=
  roundHalfEven (num * 2 ^ (-lastExp num den).toNat) (den * 2 ^ (lastExp num den).toNat)

theorem ofRatio_of_pos (s : Bool) {num den : ℕ} (hnum : 0 < num) :
    ofRatio s num den =
      if roundedSig num den = 2 ^ 53 then
        (if maxExp < lastExp num den + 1 then inf s else finite s (2 ^ 52) (lastExp num den + 1))
      else if maxExp < lastExp num den then inf s else finite s (roundedSig num den) (lastExp num den) := by
  unfold ofRatio roundedSig lastExp
  simp only [Nat.pow_eq, Nat.pos_iff_ne_zero.mp hnum, if_false]
  split <;> rfl

@[simp] theorem ofRatio_zero (s : Bool) (den : ℕ) : ofRatio s 0 den = finite s 0 minExp := by
  simp [ofRatio]

theorem minExp_le_lastExp (num den : ℕ) : minExp ≤ lastExp num den := le_max_right _ _

variable {num den : ℕ}

theorem scaled_lt (hnum : 0 < num) (hden : 0 < den) :
    (num : ℚ) / den * 2 ^ (-lastExp num den) < 2 ^ 53 := by
  have hk := (floorLog2_spec hnum hden).2
  have hle : floorLog2 num den - 52 ≤ lastExp num den := le_max_left _ _
  calc (num : ℚ) / den * 2 ^ (-lastExp num den)
      < 2 ^ (floorLog2 num den + 1) * 2 ^ (-lastExp num den) :=
        mul_lt_mul_of_pos_right hk (two_zpow_pos _)
    _ = 2 ^ (floorLog2 num den + 1 - lastExp num den) := by
        rw [← zpow_add₀ (by norm_num)]; ring_nf
    _ ≤ 2 ^ (53 : ℤ) := two_zpow_le_two_zpow (by omega)
    _ = 2 ^ 53 := by norm_num

/-- Unless the ratio is below the normal range, its scaled value has a full significand. -/
theorem normal_or_minExp (hnum : 0 < num) (hden : 0 < den) :
    lastExp num den = minExp ∨ 2 ^ 52 ≤ (num : ℚ) / den * 2 ^ (-lastExp num den) := by
  rcases max_choice (floorLog2 num den - 52) minExp with h | h
  · right
    have hk := (floorLog2_spec hnum hden).1
    rw [lastExp, h]
    calc (2 : ℚ) ^ 52 = 2 ^ floorLog2 num den * 2 ^ (-(floorLog2 num den - 52)) := by
          rw [← zpow_add₀ (by norm_num)]; norm_num
      _ ≤ (num : ℚ) / den * 2 ^ (-(floorLog2 num den - 52)) :=
          mul_le_mul_of_nonneg_right hk (two_zpow_pos _).le
  · exact .inl h

theorem le_roundedSig {j : ℕ} (hden : 0 < den)
    (h : (j : ℚ) ≤ (num : ℚ) / den * 2 ^ (-lastExp num den)) : j ≤ roundedSig num den := by
  refine le_trans ?_ (div_le_roundHalfEven _ _)
  rw [Nat.le_div_iff_mul_le (by positivity)]
  rw [← scaled_ratio, le_div_iff₀ (by positivity)] at h
  exact_mod_cast h

theorem roundedSig_le {j : ℕ} (hden : 0 < den)
    (h : (num : ℚ) / den * 2 ^ (-lastExp num den) ≤ j) : roundedSig num den ≤ j := by
  refine roundHalfEven_le_of_le_mul (by positivity) ?_
  rw [← scaled_ratio, div_le_iff₀ (by positivity)] at h
  exact_mod_cast h

theorem roundedSig_le_two_pow (hnum : 0 < num) (hden : 0 < den) : roundedSig num den ≤ 2 ^ 53 :=
  roundedSig_le hden (by exact_mod_cast (scaled_lt hnum hden).le)

/-! ## Rounding between representable values -/

/-- A value on a coarser grid is a whole number of places of a finer one. -/
theorem natCast_mul_two_zpow_of_le (n : ℕ) {e f : ℤ} (h : e ≤ f) :
    (n : ℚ) * 2 ^ f = ((n * 2 ^ (f - e).toNat : ℕ) : ℚ) * 2 ^ e := by
  push_cast
  rw [mul_assoc, ← zpow_natCast, ← zpow_add₀ (by norm_num), Int.toNat_of_nonneg (by omega),
    sub_add_cancel]

/-- A representable value with a smaller exponent than the last place of a normal ratio lies
below the ratio's binade. -/
theorem lt_binade_of_exp_lt {n : ℕ} {f : ℤ} (hfit : Fits n f) (hnum : 0 < num) (hden : 0 < den)
    (hf : f < lastExp num den) :
    (n : ℚ) * 2 ^ f < 2 ^ 52 * 2 ^ lastExp num den ∧
      2 ^ 52 ≤ (num : ℚ) / den * 2 ^ (-lastExp num den) := by
  have hnorm := (normal_or_minExp hnum hden).resolve_left (by have := hfit.2.1; omega)
  refine ⟨?_, hnorm⟩
  have hn : (n : ℚ) < 2 ^ 53 := by exact_mod_cast hfit.1
  calc (n : ℚ) * 2 ^ f < 2 ^ 53 * 2 ^ f := mul_lt_mul_of_pos_right hn (two_zpow_pos f)
    _ ≤ 2 ^ 53 * 2 ^ (lastExp num den - 1) :=
        mul_le_mul_of_nonneg_left (two_zpow_le_two_zpow (by omega)) (by norm_num)
    _ = 2 ^ 52 * 2 ^ lastExp num den := by
        rw [zpow_sub₀ (by norm_num)]; field_simp

/-- The value `ofRatio` gives, carry or not, is the rounded significand at the last place. -/
theorem ofRatio_cases (hnum : 0 < num) (hden : 0 < den) :
    (ofRatio false num den = inf false) ∨
      (∃ m e, ofRatio false num den = finite false m e ∧ m < 2 ^ 53 ∧
        lastExp num den ≤ e ∧ e ≤ maxExp ∧
        (m : ℚ) * 2 ^ e = roundedSig num den * 2 ^ lastExp num den) := by
  have hsig := roundedSig_le_two_pow hnum hden
  rw [ofRatio_of_pos false hnum]
  split_ifs with hcarry hov hov
  · exact .inl rfl
  · refine .inr ⟨2 ^ 52, lastExp num den + 1, rfl, by norm_num, by omega, by omega, ?_⟩
    rw [hcarry, zpow_add₀ (by norm_num)]
    push_cast
    ring
  · exact .inl rfl
  · exact .inr ⟨_, _, rfl, lt_of_le_of_ne (by omega) hcarry, le_rfl, by omega, rfl⟩

/-- Rounding a positive ratio never goes below a representable value under it; it may
overflow to the positive infinity. -/
theorem le_ofRatio (hnum : 0 < num) (hden : 0 < den) {y : ℚ} (hy : Representable y)
    (hle : y ≤ (num : ℚ) / den) :
    ofRatio false num den = inf false ∨ ∃ v, (ofRatio false num den).Represents v ∧ y ≤ v := by
  obtain ⟨n, f, hfit, rfl⟩ := hy
  -- the rounded significand at the last place is at least `y`
  have hsig : (n : ℚ) * 2 ^ f ≤ roundedSig num den * 2 ^ lastExp num den := by
    rcases le_or_gt (lastExp num den) f with hef | hfe
    · rw [natCast_mul_two_zpow_of_le n hef] at hle ⊢
      have hj := le_roundedSig hden (by
        rw [← le_div_iff₀ (two_zpow_pos _), div_eq_mul_inv, ← zpow_neg] at hle
        exact hle)
      exact mul_le_mul_of_nonneg_right (by exact_mod_cast hj) (two_zpow_pos _).le
    · obtain ⟨hlt, hnorm⟩ := lt_binade_of_exp_lt hfit hnum hden hfe
      have h52 : 2 ^ 52 ≤ roundedSig num den := le_roundedSig hden (by exact_mod_cast hnorm)
      refine hlt.le.trans (mul_le_mul_of_nonneg_right ?_ (two_zpow_pos _).le)
      exact_mod_cast h52
  rcases ofRatio_cases hnum hden with hinf | ⟨m, e, hx, hm, hle', he, hval⟩
  · exact .inl hinf
  · refine .inr ⟨m * 2 ^ e, ⟨m, e, ⟨hm, (minExp_le_lastExp num den).trans hle', he⟩, hx, rfl⟩, ?_⟩
    rw [hval]
    exact hsig

/-- Rounding a ratio never goes above a representable value over it, and stays finite. -/
theorem ofRatio_le (hden : 0 < den) {y : ℚ} (hy : Representable y) (hle : (num : ℚ) / den ≤ y) :
    ∃ v, (ofRatio false num den).Represents v ∧ v ≤ y := by
  obtain ⟨n, f, hfit, rfl⟩ := hy
  rcases Nat.eq_zero_or_pos num with rfl | hnum
  · exact ⟨0, by rw [ofRatio_zero]; exact zero_represents, by positivity⟩
  set e := lastExp num den with he_def
  -- a representable value above the ratio is on the grid of its last place
  have hef : e ≤ f := by
    by_contra hfe
    obtain ⟨hlt, hnorm⟩ := lt_binade_of_exp_lt hfit hnum hden (lt_of_not_ge hfe)
    have : (2 : ℚ) ^ 52 * 2 ^ e ≤ num / den := by
      rw [← le_div_iff₀ (two_zpow_pos _), div_eq_mul_inv, ← zpow_neg]
      exact hnorm
    linarith
  set j := n * 2 ^ (f - e).toNat with hj_def
  rw [natCast_mul_two_zpow_of_le n hef, ← hj_def] at hle ⊢
  have hsig : roundedSig num den ≤ j := roundedSig_le hden (by
    rw [← div_le_iff₀ (two_zpow_pos _), div_eq_mul_inv, ← zpow_neg] at hle
    exact hle)
  have hval : ∀ m : ℕ, m ≤ j → (m : ℚ) * 2 ^ e ≤ j * 2 ^ e := fun m hm =>
    mul_le_mul_of_nonneg_right (by exact_mod_cast hm) (two_zpow_pos _).le
  rw [ofRatio_of_pos false hnum]
  split_ifs with hcarry hov hov
  · -- a carry past `2 ^ 53` needs a coarser grid, so the exponent has room
    have hpos : 1 ≤ (f - e).toNat := by
      by_contra h0
      have : j = n := by rw [hj_def, show (f - e).toNat = 0 by omega, pow_zero, mul_one]
      have := hfit.1
      omega
    have := hfit.2.2
    omega
  · refine ⟨_, ⟨2 ^ 52, e + 1, ⟨by norm_num, by have := minExp_le_lastExp num den; omega,
      by omega⟩, rfl, rfl⟩, ?_⟩
    calc ((2 ^ 52 : ℕ) : ℚ) * 2 ^ (e + 1) = ((2 ^ 53 : ℕ) : ℚ) * 2 ^ e := by
          rw [zpow_add₀ (by norm_num)]; push_cast; ring
      _ ≤ j * 2 ^ e := hval _ (hcarry ▸ hsig)
  · have := hfit.2.2
    omega
  · exact ⟨_, ⟨_, _, ⟨lt_of_le_of_ne (roundedSig_le_two_pow hnum hden) hcarry,
      minExp_le_lastExp num den, by omega⟩, rfl, rfl⟩, hval _ hsig⟩

/-- A representable ratio is rounded to itself. -/
theorem ofRatio_exact (hden : 0 < den) {y : ℚ} (hy : Representable y) (heq : (num : ℚ) / den = y) :
    (ofRatio false num den).Represents y := by
  rcases Nat.eq_zero_or_pos num with rfl | hnum
  · rw [ofRatio_zero, ← heq, Nat.cast_zero, zero_div]
    exact zero_represents
  obtain ⟨v, hv, hvy⟩ := ofRatio_le hden hy heq.le
  rcases le_ofRatio hnum hden hy heq.ge with hinf | ⟨w, hw, hyw⟩
  · obtain ⟨m, e, -, hx, -⟩ := hv
    rw [hinf] at hx
    cases hx
  · -- both bounds are values of the one datum
    have hvw : v = w := hv.toRat_eq.symm.trans hw.toRat_eq
    have hvy' : v = y := le_antisymm hvy (hvw ▸ hyw)
    exact hvy' ▸ hv

/-! ## Operations on nonnegative data

Each operation lines its operands up on a common grid, computes the exact result as a
ratio of natural numbers and rounds it once. -/

theorem aligned_false (m : ℕ) (e g : ℤ) : aligned false m e g = ((m * 2 ^ (e - g).toNat : ℕ) : ℤ) := by
  simp [aligned, Nat.pow_eq]

theorem aligned_true (m : ℕ) (e g : ℤ) : aligned true m e g = -((m * 2 ^ (e - g).toNat : ℕ) : ℤ) := by
  simp [aligned, Nat.pow_eq]

/-- A number on the grid of `2 ^ g`, written as a ratio of natural numbers. -/
theorem natCast_mul_two_zpow_eq_div (z : ℕ) (g : ℤ) :
    (z : ℚ) * 2 ^ g = ((z * 2 ^ g.toNat : ℕ) : ℚ) / ((2 ^ (-g).toNat : ℕ) : ℚ) := by
  rw [two_zpow_eq_div g]
  push_cast
  ring

theorem add_eq_ofRatio (m n : ℕ) (e f : ℤ) :
    ∃ N D : ℕ, 0 < D ∧ (N : ℚ) / D = m * 2 ^ e + n * 2 ^ f ∧
      finite false m e + finite false n f = ofRatio false N D := by
  -- both operands as whole numbers of the finer grid's places
  refine ⟨(m * 2 ^ (e - min e f).toNat + n * 2 ^ (f - min e f).toNat) * 2 ^ (min e f).toNat,
    2 ^ (-min e f).toNat, by positivity, ?_, ?_⟩
  · rw [← natCast_mul_two_zpow_eq_div, natCast_mul_two_zpow_of_le m (min_le_left e f),
      natCast_mul_two_zpow_of_le n (min_le_right e f), ← add_mul, Nat.cast_add]
  · show add _ _ = _
    simp only [add, aligned_false, ← Nat.cast_add]
    split
    · rename_i hz
      have hz' : m * 2 ^ (e - min e f).toNat + n * 2 ^ (f - min e f).toNat = 0 := by omega
      simp [hz']
    · have hneg : ¬ ((m * 2 ^ (e - min e f).toNat + n * 2 ^ (f - min e f).toNat : ℕ) : ℤ) < 0 := by
        omega
      simp only [ofDyadic, Nat.pow_eq, hneg, decide_false, Int.natAbs_natCast]

theorem sub_eq_ofRatio {m n : ℕ} {e f : ℤ} (h : (n : ℚ) * 2 ^ f ≤ m * 2 ^ e) :
    ∃ N D : ℕ, 0 < D ∧ (N : ℚ) / D = m * 2 ^ e - n * 2 ^ f ∧
      finite false m e - finite false n f = ofRatio false N D := by
  have hm := natCast_mul_two_zpow_of_le m (min_le_left e f)
  have hn := natCast_mul_two_zpow_of_le n (min_le_right e f)
  -- on the finer grid the subtrahend is a whole number of places not above the minuend
  have hle : n * 2 ^ (f - min e f).toNat ≤ m * 2 ^ (e - min e f).toNat := by
    have : ((n * 2 ^ (f - min e f).toNat : ℕ) : ℚ) ≤ ((m * 2 ^ (e - min e f).toNat : ℕ) : ℚ) := by
      rw [hm, hn] at h
      exact le_of_mul_le_mul_right h (two_zpow_pos _)
    exact_mod_cast this
  refine ⟨(m * 2 ^ (e - min e f).toNat - n * 2 ^ (f - min e f).toNat) * 2 ^ (min e f).toNat,
    2 ^ (-min e f).toNat, by positivity, ?_, ?_⟩
  · rw [← natCast_mul_two_zpow_eq_div, hm, hn, ← sub_mul, Nat.cast_sub hle]
  · show sub _ _ = _
    simp only [sub, add, neg, aligned_false, aligned_true, Bool.not_false]
    split
    · rename_i hz
      have hz' : m * 2 ^ (e - min e f).toNat - n * 2 ^ (f - min e f).toNat = 0 := by omega
      simp [hz']
    · rename_i hz
      have hneg : ¬ (((m * 2 ^ (e - min e f).toNat : ℕ) : ℤ) +
          -((n * 2 ^ (f - min e f).toNat : ℕ) : ℤ)) < 0 := by omega
      have habs : (((m * 2 ^ (e - min e f).toNat : ℕ) : ℤ) +
          -((n * 2 ^ (f - min e f).toNat : ℕ) : ℤ)).natAbs =
            m * 2 ^ (e - min e f).toNat - n * 2 ^ (f - min e f).toNat := by omega
      simp only [ofDyadic, Nat.pow_eq, hneg, decide_false, habs]

theorem mul_eq_ofRatio (m n : ℕ) (e f : ℤ) :
    ∃ N D : ℕ, 0 < D ∧ (N : ℚ) / D = (m * 2 ^ e) * (n * 2 ^ f) ∧
      finite false m e * finite false n f = ofRatio false N D := by
  refine ⟨m * n * 2 ^ (e + f).toNat, 2 ^ (-(e + f)).toNat, by positivity, ?_, ?_⟩
  · rw [← natCast_mul_two_zpow_eq_div, zpow_add₀ (by norm_num)]
    push_cast
    ring
  · show mul _ _ = _
    simp [mul, ofDyadic, Nat.pow_eq]

theorem div_eq_ofRatio (m n : ℕ) (e f : ℤ) (hn : 0 < n) :
    ∃ N D : ℕ, 0 < D ∧ (N : ℚ) / D = (m * 2 ^ e) / (n * 2 ^ f) ∧
      finite false m e / finite false n f = ofRatio false N D := by
  refine ⟨m * 2 ^ (e - f).toNat, n * 2 ^ (f - e).toNat, by positivity, ?_, ?_⟩
  · rw [← neg_sub f e, scaled_ratio m n (f - e), neg_sub, zpow_sub₀ (by norm_num)]
    field_simp
  · show div _ _ = _
    simp [div, Nat.pos_iff_ne_zero.mp hn, Nat.pow_eq]

/-- A ratio between two representable values rounds to a finite value between them. -/
theorem ofRatio_between (hden : 0 < den) {lo hi : ℚ} (hlo : Representable lo)
    (hhi : Representable hi) (h1 : lo ≤ (num : ℚ) / den) (h2 : (num : ℚ) / den ≤ hi) :
    ∃ w, (ofRatio false num den).Represents w ∧ lo ≤ w ∧ w ≤ hi := by
  obtain ⟨w, hw, hwhi⟩ := ofRatio_le hden hhi h2
  refine ⟨w, hw, ?_, hwhi⟩
  rcases Nat.eq_zero_or_pos num with rfl | hnum
  · rw [ofRatio_zero] at hw
    rw [← hw.toRat_eq]
    simpa [toRat] using h1
  rcases le_ofRatio hnum hden hlo h1 with hinf | ⟨w', hw', hlo'⟩
  · obtain ⟨m, e, -, hx, -⟩ := hw
    rw [hinf] at hx
    cases hx
  · rwa [← hw'.toRat_eq, hw.toRat_eq] at hlo'

theorem representable_two_zpow {k : ℤ} (hlo : minExp + 52 ≤ k) (hhi : k ≤ maxExp + 52) :
    Representable (2 ^ k) :=
  ⟨2 ^ 52, k - 52, ⟨by norm_num, by omega, by omega⟩, by
    rw [zpow_sub₀ (by norm_num)]; push_cast; field_simp⟩

/-! ## Nonnegative data -/

/-- A datum of a nonnegative result: the positive infinity, or finite and nonnegative with
fields in range. -/
def Nonneg (x : Binary64) : Prop := x = inf false ∨ ∃ v, x.Represents v

theorem Represents.nonneg' {x : Binary64} {v : ℚ} (h : x.Represents v) : x.Nonneg := .inr ⟨v, h⟩

theorem ofRatio_nonneg (hden : 0 < den) : (ofRatio false num den).Nonneg := by
  rcases Nat.eq_zero_or_pos num with rfl | hnum
  · exact .inr ⟨0, by rw [ofRatio_zero]; exact zero_represents⟩
  rcases le_ofRatio hnum hden representable_zero (by positivity) with h | ⟨v, hv, -⟩
  · exact .inl h
  · exact .inr ⟨v, hv⟩

/-- Rounding the exact value of a result keeps it at least any representable value below it,
unless it overflows. -/
theorem le_of_ofRatio {x : Binary64} {num den : ℕ} (hden : 0 < den) (hx : x = ofRatio false num den)
    {y : ℚ} (hy : Representable y) (hle : y ≤ (num : ℚ) / den) :
    x = inf false ∨ ∃ v, x.Represents v ∧ y ≤ v := by
  subst hx
  rcases Nat.eq_zero_or_pos num with rfl | hnum
  · refine .inr ⟨0, by rw [ofRatio_zero]; exact zero_represents, ?_⟩
    simpa using hle
  · exact le_ofRatio hnum hden hy hle

theorem add_nonneg {x y : Binary64} (hx : x.Nonneg) (hy : y.Nonneg) : (x + y).Nonneg := by
  rcases hx with rfl | ⟨u, m, e, -, rfl, -⟩ <;> rcases hy with rfl | ⟨v, n, f, -, rfl, -⟩
  · exact .inl rfl
  · exact .inl rfl
  · exact .inl rfl
  · obtain ⟨N, D, hD, -, heq⟩ := add_eq_ofRatio m n e f
    rw [heq]
    exact ofRatio_nonneg hD

/-- Adding a nonnegative datum never lowers a value. -/
theorem le_add {x y : Binary64} {u : ℚ} (hx : x.Represents u) (hy : y.Nonneg) :
    x + y = inf false ∨ ∃ w, (x + y).Represents w ∧ u ≤ w := by
  obtain ⟨m, e, hfit, rfl, rfl⟩ := hx
  rcases hy with rfl | ⟨v, n, f, -, rfl, rfl⟩
  · exact .inl rfl
  · obtain ⟨N, D, hD, hND, heq⟩ := add_eq_ofRatio m n e f
    refine le_of_ofRatio hD heq ⟨m, e, hfit, rfl⟩ ?_
    rw [hND]
    have : (0 : ℚ) ≤ n * 2 ^ f := by positivity
    linarith

theorem add_exact {x y : Binary64} {u v : ℚ} (hx : x.Represents u) (hy : y.Represents v)
    (hr : Representable (u + v)) : (x + y).Represents (u + v) := by
  obtain ⟨m, e, -, rfl, rfl⟩ := hx
  obtain ⟨n, f, -, rfl, rfl⟩ := hy
  obtain ⟨N, D, hD, hND, heq⟩ := add_eq_ofRatio m n e f
  rw [heq]
  exact ofRatio_exact hD hr hND

/-- A sum between two representable values rounds to a finite value between them. -/
theorem add_between {x y : Binary64} {u v lo hi : ℚ} (hx : x.Represents u) (hy : y.Represents v)
    (hlo : Representable lo) (hhi : Representable hi) (h1 : lo ≤ u + v) (h2 : u + v ≤ hi) :
    ∃ w, (x + y).Represents w ∧ lo ≤ w ∧ w ≤ hi := by
  obtain ⟨m, e, -, rfl, rfl⟩ := hx
  obtain ⟨n, f, -, rfl, rfl⟩ := hy
  obtain ⟨N, D, hD, hND, heq⟩ := add_eq_ofRatio m n e f
  rw [heq]
  exact ofRatio_between hD hlo hhi (hND ▸ h1) (hND ▸ h2)

/-- A quotient between two representable values rounds to a finite value between them. -/
theorem div_between {x y : Binary64} {u v lo hi : ℚ} (hx : x.Represents u) (hy : y.Represents v)
    (hv : 0 < v) (hlo : Representable lo) (hhi : Representable hi) (h1 : lo ≤ u / v)
    (h2 : u / v ≤ hi) : ∃ w, (x / y).Represents w ∧ lo ≤ w ∧ w ≤ hi := by
  obtain ⟨m, e, -, rfl, rfl⟩ := hx
  obtain ⟨n, f, -, rfl, rfl⟩ := hy
  have hn : 0 < n := by
    rcases Nat.eq_zero_or_pos n with rfl | hn
    · simp at hv
    · exact hn
  obtain ⟨N, D, hD, hND, heq⟩ := div_eq_ofRatio m n e f hn
  rw [heq]
  exact ofRatio_between hD hlo hhi (hND ▸ h1) (hND ▸ h2)

theorem sub_exact {x y : Binary64} {u v : ℚ} (hx : x.Represents u) (hy : y.Represents v)
    (hle : v ≤ u) (hr : Representable (u - v)) : (x - y).Represents (u - v) := by
  obtain ⟨m, e, -, rfl, rfl⟩ := hx
  obtain ⟨n, f, -, rfl, rfl⟩ := hy
  obtain ⟨N, D, hD, hND, heq⟩ := sub_eq_ofRatio hle
  rw [heq]
  exact ofRatio_exact hD hr hND

theorem mul_nonneg {x y : Binary64} {u v : ℚ} (hx : x.Represents u) (hy : y.Represents v) :
    (x * y).Nonneg := by
  obtain ⟨m, e, -, rfl, rfl⟩ := hx
  obtain ⟨n, f, -, rfl, rfl⟩ := hy
  obtain ⟨N, D, hD, -, heq⟩ := mul_eq_ofRatio m n e f
  rw [heq]
  exact ofRatio_nonneg hD

theorem mul_represents_zero {x y : Binary64} {v : ℚ} (hx : x.Represents 0) (hy : y.Represents v) :
    (x * y).Represents 0 := by
  obtain ⟨m, e, -, rfl, hm⟩ := hx
  obtain ⟨n, f, -, rfl, rfl⟩ := hy
  obtain ⟨N, D, hD, hND, heq⟩ := mul_eq_ofRatio m n e f
  rw [heq]
  exact ofRatio_exact hD representable_zero (by rw [hND, ← hm, zero_mul])

/-! ## Comparisons -/

theorem compare?_represents {x y : Binary64} {u v : ℚ} (hx : x.Represents u) (hy : y.Represents v) :
    compare? x y = some (compare u v) := by
  obtain ⟨m, e, -, rfl, rfl⟩ := hx
  obtain ⟨n, f, -, rfl, rfl⟩ := hy
  simp only [compare?, aligned_false, Option.some.injEq]
  -- both sides compare the same two numbers, scaled by `2 ^ min e f`
  have hm := natCast_mul_two_zpow_of_le m (min_le_left e f)
  have hn := natCast_mul_two_zpow_of_le n (min_le_right e f)
  rw [hm, hn]
  generalize m * 2 ^ (e - min e f).toNat = a
  generalize n * 2 ^ (f - min e f).toNat = b
  have hpos := two_zpow_pos (min e f)
  rcases lt_trichotomy a b with h | rfl | h
  · rw [compare_lt_iff_lt.mpr (by exact_mod_cast h),
      compare_lt_iff_lt.mpr (mul_lt_mul_of_pos_right (by exact_mod_cast h) hpos)]
  · rw [compare_eq_iff_eq.mpr rfl, compare_eq_iff_eq.mpr rfl]
  · rw [compare_gt_iff_gt.mpr (by exact_mod_cast h),
      compare_gt_iff_gt.mpr (mul_lt_mul_of_pos_right (by exact_mod_cast h) hpos)]

theorem lt_iff_of_represents {x y : Binary64} {u v : ℚ} (hx : x.Represents u) (hy : y.Represents v) :
    lt x y = true ↔ u < v := by
  simp [lt, compare?_represents hx hy, compare_lt_iff_lt]

theorem le_iff_of_represents {x y : Binary64} {u v : ℚ} (hx : x.Represents u) (hy : y.Represents v) :
    le x y = true ↔ u ≤ v := by
  simp only [le, compare?_represents hx hy, Bool.or_eq_true, beq_iff_eq, Option.some.injEq,
    compare_lt_iff_lt, compare_eq_iff_eq]
  exact le_iff_lt_or_eq.symm

/-- The smaller of a finite datum and the positive infinity is the finite one. -/
theorem minNum_inf {c : Binary64} {w : ℚ} (hc : c.Represents w) : minNum (inf false) c = c := by
  obtain ⟨n, f, -, rfl, rfl⟩ := hc
  simp [minNum, lt, compare?]

theorem minNum_of_represents {x c : Binary64} {u w : ℚ} (hx : x.Represents u) (hc : c.Represents w) :
    (minNum x c).Represents (min u w) := by
  have hx' := hx
  obtain ⟨m, e, -, rfl, rfl⟩ := hx'
  have hc' := hc
  obtain ⟨n, f, -, rfl, rfl⟩ := hc'
  simp only [minNum]
  split
  · rw [min_eq_right ((lt_iff_of_represents hc hx).mp ‹_›).le]
    exact hc
  · rw [min_eq_left (not_lt.mp fun h => ‹¬_› ((lt_iff_of_represents hc hx).mpr h))]
    exact hx

/-! ## Whole numbers -/

theorem representable_natCast {n : ℕ} (hn : n < 2 ^ 53) : Representable n :=
  ⟨n, 0, ⟨hn, by decide, by decide⟩, by simp⟩

theorem one_represents : (1 : Binary64).Represents 1 :=
  ⟨2 ^ 52, -52, ⟨by norm_num, by decide, by decide⟩, by decide, by norm_num⟩

/-- Below `2 ^ 53` a value less one is representable: on the grid of the value or of the
whole numbers, whichever is finer, the difference still has fewer than 53 bits. -/
theorem representable_sub_one {u : ℚ} (hu : Representable u) (h1 : 1 ≤ u) (h53 : u ≤ 2 ^ 53) :
    Representable (u - 1) := by
  obtain ⟨m, e, ⟨hm, hlo, hhi⟩, rfl⟩ := hu
  have hmg := natCast_mul_two_zpow_of_le m (min_le_left e 0)
  have h1g : (1 : ℚ) = ((1 * 2 ^ (0 - min e 0).toNat : ℕ) : ℚ) * 2 ^ min e 0 := by
    rw [← natCast_mul_two_zpow_of_le 1 (min_le_right e 0)]; simp
  rw [hmg] at h1 h53 ⊢
  rw [h1g] at h1 ⊢
  have hpos := two_zpow_pos (min e 0)
  have hle : 1 * 2 ^ (0 - min e 0).toNat ≤ m * 2 ^ (e - min e 0).toNat := by
    exact_mod_cast le_of_mul_le_mul_right h1 hpos
  refine ⟨m * 2 ^ (e - min e 0).toNat - 1 * 2 ^ (0 - min e 0).toNat, min e 0,
    ⟨?_, le_min hlo (by decide), (min_le_right e 0).trans (by decide)⟩, ?_⟩
  · -- on the value's own grid the significand shrinks; on the whole numbers it is below `2 ^ 53`
    rcases min_choice e 0 with he | he
    · rw [he, sub_self, Int.toNat_zero, pow_zero, Nat.mul_one]
      omega
    · rw [he] at h53 ⊢
      rw [zpow_zero, mul_one] at h53
      have : m * 2 ^ (e - 0).toNat ≤ 2 ^ 53 := by exact_mod_cast h53
      have : 0 < 1 * 2 ^ (0 - 0 : ℤ).toNat := by positivity
      omega
  · rw [Nat.cast_sub hle, sub_mul]

theorem sub_one_represents {x : Binary64} {u : ℚ} (hx : x.Represents u) (h1 : 1 ≤ u)
    (h53 : u ≤ 2 ^ 53) : (x - 1).Represents (u - 1) :=
  sub_exact hx one_represents h1 (representable_sub_one hx.representable h1 h53)

theorem toNatClamped_of_represents {x : Binary64} {u : ℚ} (hx : x.Represents u) :
    x.toNatClamped = min ⌊u⌋₊ (2 ^ 64 - 1) := by
  obtain ⟨m, e, -, rfl, rfl⟩ := hx
  simp only [toNatClamped, Nat.pow_eq]
  congr 1
  have h : ⌊((m * 2 ^ e.toNat : ℕ) : ℚ) / ((2 ^ (-e).toNat : ℕ) : ℚ)⌋₊ =
      m * 2 ^ e.toNat / 2 ^ (-e).toNat := Nat.floor_div_eq_div _ _
  rw [← h, two_zpow_eq_div e, ← mul_div_assoc]
  push_cast
  rfl

theorem floor_represents {x : Binary64} {u : ℚ} (hx : x.Represents u) : x.floor.Represents ⌊u⌋₊ := by
  obtain ⟨m, e, hfit, rfl, rfl⟩ := hx
  simp only [floor]
  split
  · -- a nonnegative exponent holds a whole number already
    rename_i he
    refine ⟨m, e, hfit, rfl, ?_⟩
    rw [natCast_mul_two_zpow_of_le m he, sub_zero, zpow_zero, mul_one, Nat.floor_natCast]
  · rename_i he
    have hq : m / 2 ^ (-e).toNat = ⌊(m : ℚ) * 2 ^ e⌋₊ := by
      have h : ⌊(m : ℚ) / ((2 ^ (-e).toNat : ℕ) : ℚ)⌋₊ = m / 2 ^ (-e).toNat := Nat.floor_div_eq_div _ _
      rw [← h, two_zpow_eq_div e, Int.toNat_of_nonpos (show e ≤ 0 by omega), pow_zero, mul_one_div]
      push_cast
      rfl
    simp only [ofDyadic, Nat.pow_eq, Bool.false_eq_true, if_false, Int.toNat_zero, neg_zero,
      pow_zero, Nat.mul_one]
    refine ofRatio_exact one_pos (representable_natCast ?_) (by rw [hq]; simp)
    have : ⌊(m : ℚ) * 2 ^ e⌋₊ ≤ m := by rw [← hq]; exact Nat.div_le_self _ _
    exact lt_of_le_of_lt this hfit.1

/-! ## Monotone rounding

Rounding is monotone: of two ratios, the larger never rounds to a smaller value. When the
two keep one last place this is the monotonicity of rounding half to even; when the larger
keeps a higher one, a power of two lies between them and both roundings respect it. -/

theorem roundHalfEven_le_succ (a b : ℕ) : roundHalfEven a b ≤ a / b + 1 := by
  unfold roundHalfEven
  dsimp only
  split_ifs <;> omega

/-- Rounding half to even is monotone in the ratio it rounds. -/
theorem roundHalfEven_mono {a b a' b' : ℕ} (hb : 0 < b) (hb' : 0 < b')
    (h : (a : ℚ) / b ≤ a' / b') : roundHalfEven a b ≤ roundHalfEven a' b' := by
  have hcross : a * b' ≤ a' * b := by
    rw [div_le_div_iff₀ (by exact_mod_cast hb) (by exact_mod_cast hb')] at h
    exact_mod_cast h
  have hq : a / b ≤ a' / b' := by
    rw [← Nat.floor_div_eq_div (K := ℚ), ← Nat.floor_div_eq_div (K := ℚ)]
    exact Nat.floor_mono h
  rcases lt_or_eq_of_le hq with hlt | heq
  · calc roundHalfEven a b ≤ a / b + 1 := roundHalfEven_le_succ a b
      _ ≤ a' / b' := hlt
      _ ≤ roundHalfEven a' b' := div_le_roundHalfEven a' b'
  · -- with one whole part, the remainders compare as the ratios do
    have e := Nat.div_add_mod a b
    have e' := Nat.div_add_mod a' b'
    have hfrac : a % b * b' ≤ a' % b' * b := by
      rw [← heq] at e'
      nlinarith
    unfold roundHalfEven
    dsimp only
    rw [← heq]
    split_ifs <;> first | omega | nlinarith

section Monotone

variable {n₁ d₁ n₂ d₂ : ℕ}

theorem floorLog2_mono (hn₁ : 0 < n₁) (hd₁ : 0 < d₁) (hn₂ : 0 < n₂) (hd₂ : 0 < d₂)
    (h : (n₁ : ℚ) / d₁ ≤ n₂ / d₂) : floorLog2 n₁ d₁ ≤ floorLog2 n₂ d₂ := by
  by_contra hlt
  have hlo := (floorLog2_spec hn₁ hd₁).1
  have hhi := (floorLog2_spec hn₂ hd₂).2
  have : (2 : ℚ) ^ (floorLog2 n₂ d₂ + 1) ≤ 2 ^ floorLog2 n₁ d₁ := two_zpow_le_two_zpow (by omega)
  linarith

theorem lastExp_mono (hn₁ : 0 < n₁) (hd₁ : 0 < d₁) (hn₂ : 0 < n₂) (hd₂ : 0 < d₂)
    (h : (n₁ : ℚ) / d₁ ≤ n₂ / d₂) : lastExp n₁ d₁ ≤ lastExp n₂ d₂ :=
  max_le_max (by have := floorLog2_mono hn₁ hd₁ hn₂ hd₂ h; omega) le_rfl

/-- A finite rounding of a positive ratio has the rounded significand's value, at an exponent
in range. -/
theorem value_ofRatio (hnum : 0 < num) (hden : 0 < den) {v : ℚ}
    (hv : (ofRatio false num den).Represents v) :
    v = roundedSig num den * 2 ^ lastExp num den ∧ lastExp num den ≤ maxExp := by
  rcases ofRatio_cases hnum hden with hinf | ⟨m, e, hx, hm, hle, he, hval⟩
  · obtain ⟨_, _, _, hx, _⟩ := hv
    rw [hinf] at hx
    cases hx
  · have hw : (ofRatio false num den).Represents (m * 2 ^ e) :=
      ⟨m, e, ⟨hm, (minExp_le_lastExp num den).trans hle, he⟩, hx, rfl⟩
    exact ⟨(hv.unique hw).trans hval, hle.trans he⟩

/-- Rounding is monotone: of two ratios, the larger never rounds to a smaller value. -/
theorem ofRatio_mono (hd₁ : 0 < d₁) (hd₂ : 0 < d₂) (h : (n₁ : ℚ) / d₁ ≤ n₂ / d₂) {v₁ v₂ : ℚ}
    (h₁ : (ofRatio false n₁ d₁).Represents v₁) (h₂ : (ofRatio false n₂ d₂).Represents v₂) :
    v₁ ≤ v₂ := by
  rcases Nat.eq_zero_or_pos n₁ with rfl | hn₁
  · rw [ofRatio_zero] at h₁
    rw [h₁.unique zero_represents]
    exact h₂.nonneg
  have hn₂ : 0 < n₂ := by
    have hpos : (0 : ℚ) < n₂ / d₂ := lt_of_lt_of_le (by positivity) h
    exact_mod_cast (div_pos_iff_of_pos_right (by exact_mod_cast hd₂ : (0 : ℚ) < d₂)).mp hpos
  obtain ⟨hv₁, -⟩ := value_ofRatio hn₁ hd₁ h₁
  obtain ⟨hv₂, -⟩ := value_ofRatio hn₂ hd₂ h₂
  rcases lt_or_eq_of_le (lastExp_mono hn₁ hd₁ hn₂ hd₂ h) with hlt | heq
  · -- the larger ratio keeps a higher last place, so a power of two lies between the two
    set k := floorLog2 n₂ d₂
    have hk : lastExp n₂ d₂ = k - 52 := by
      have hmin := minExp_le_lastExp n₁ d₁
      have hmax : lastExp n₂ d₂ = max (k - 52) minExp := rfl
      omega
    have hk₁ : floorLog2 n₁ d₁ < k := by
      have : floorLog2 n₁ d₁ - 52 ≤ lastExp n₁ d₁ := le_max_left _ _
      omega
    have hrep : Representable (2 ^ k) := representable_two_zpow
      (by have := minExp_le_lastExp n₁ d₁; omega)
      (by have := (value_ofRatio hn₂ hd₂ h₂).2; omega)
    have hx₁ : (n₁ : ℚ) / d₁ ≤ 2 ^ k :=
      ((floorLog2_spec hn₁ hd₁).2.trans_le (two_zpow_le_two_zpow (by omega))).le
    obtain ⟨w₁, hw₁, hw₁k⟩ := ofRatio_le hd₁ hrep hx₁
    rcases le_ofRatio hn₂ hd₂ hrep (floorLog2_spec hn₂ hd₂).1 with hinf | ⟨w₂, hw₂, hkw₂⟩
    · obtain ⟨_, _, _, hx, _⟩ := h₂
      rw [hinf] at hx
      cases hx
    · rw [h₁.unique hw₁, h₂.unique hw₂]
      exact hw₁k.trans hkw₂
  · -- one last place: the significands round monotonically
    rw [hv₁, hv₂, heq]
    refine mul_le_mul_of_nonneg_right ?_ (two_zpow_pos _).le
    unfold roundedSig
    rw [heq]
    exact_mod_cast roundHalfEven_mono (by positivity) (by positivity) (by
      rw [scaled_ratio, scaled_ratio]
      exact mul_le_mul_of_nonneg_right h (two_zpow_pos _).le)

end Monotone

/-! ## Canonical data -/

/-- A datum as rounding leaves it: finite and nonnegative, with a full significand unless it
is at the least exponent. Its value determines it (`Canonical.eq`). -/
def Canonical (x : Binary64) : Prop := ∃ m e, x = finite false m e ∧ (2 ^ 52 ≤ m ∨ e = minExp)

theorem ofRatio_canonical (hden : 0 < den) {v : ℚ}
    (hv : (ofRatio false num den).Represents v) : (ofRatio false num den).Canonical := by
  rcases Nat.eq_zero_or_pos num with rfl | hnum
  · rw [ofRatio_zero]
    exact ⟨0, minExp, rfl, .inr rfl⟩
  have hfin := hv
  rw [ofRatio_of_pos false hnum] at hfin ⊢
  split_ifs at hfin ⊢ with hcarry hov hov
  · obtain ⟨_, _, _, hx, _⟩ := hfin
    cases hx
  · exact ⟨2 ^ 52, _, rfl, .inl le_rfl⟩
  · obtain ⟨_, _, _, hx, _⟩ := hfin
    cases hx
  · refine ⟨_, _, rfl, ?_⟩
    rcases normal_or_minExp hnum hden with h | h
    · exact .inr h
    · exact .inl (le_roundedSig hden (by exact_mod_cast h))

/-- Of two data of one value, one with a full significand or the least exponent has
the lower exponent. -/
theorem exp_le_of_canonical {m n : ℕ} {e f : ℤ} (hm : Fits m e) (hn : 2 ^ 52 ≤ n ∨ f = minExp)
    (hval : (m : ℚ) * 2 ^ e = n * 2 ^ f) : f ≤ e := by
  by_contra hlt
  -- otherwise the other significand is `n` shifted left, too wide or below the least exponent
  have hmn : m = n * 2 ^ (f - e).toNat := by
    rw [natCast_mul_two_zpow_of_le n (le_of_lt (lt_of_not_ge hlt))] at hval
    exact_mod_cast mul_right_cancel₀ (two_zpow_pos e).ne' hval
  have h2 : 2 ≤ 2 ^ (f - e).toNat :=
    le_trans (by norm_num) (Nat.pow_le_pow_right (by norm_num) (show 1 ≤ (f - e).toNat by omega))
  rcases hn with hn | hn
  · have := hm.1
    nlinarith
  · have := hm.2.1
    omega

theorem Canonical.eq {x y : Binary64} {v : ℚ} (hx : x.Canonical) (hy : y.Canonical)
    (hxv : x.Represents v) (hyv : y.Represents v) : x = y := by
  obtain ⟨m, e, rfl, hm⟩ := hx
  obtain ⟨n, f, rfl, hn⟩ := hy
  obtain ⟨m', e', hfm, hx', hvm⟩ := hxv
  obtain ⟨n', f', hfn, hy', hvn⟩ := hyv
  cases hx'
  cases hy'
  have hval : (m : ℚ) * 2 ^ e = n * 2 ^ f := hvm.symm.trans hvn
  have hef : e = f := le_antisymm (exp_le_of_canonical hfn hm hval.symm) (exp_le_of_canonical hfm hn hval)
  subst hef
  have : (m : ℚ) = n := mul_right_cancel₀ (two_zpow_pos e).ne' hval
  rw [show m = n by exact_mod_cast this]

theorem sign_of_ofRatio {s : Bool} {m : ℕ} {e : ℤ} (h : ofRatio s num den = finite false m e) :
    s = false := by
  rcases Nat.eq_zero_or_pos num with rfl | hnum
  · rw [ofRatio_zero] at h
    cases h
    rfl
  · rw [ofRatio_of_pos s hnum] at h
    split_ifs at h <;> cases h <;> rfl

/-- A product with a value is the rounding of the product of two nonnegative finite data, so
it is canonical. -/
theorem Represents.mul_canonical {x y : Binary64} {w : ℚ} (hw : (x * y).Represents w) :
    (x * y).Canonical := by
  obtain ⟨m, e, hfit, hxy, -⟩ := hw
  match x, y, hxy with
  | finite s a b, finite t c d, hxy =>
    have hst : (s != t) = false := sign_of_ofRatio hxy
    have hxy' : finite s a b * finite t c d = ofRatio false (a * c * Nat.pow 2 (b + d).toNat)
        (Nat.pow 2 (-(b + d)).toNat) := by
      rw [← hst]
      rfl
    rw [hxy'] at hxy ⊢
    exact ofRatio_canonical (Nat.pos_of_ne_zero (by simp [Nat.pow_eq])) ⟨m, e, hfit, hxy, rfl⟩
  | nan, _, hxy => cases hxy
  | inf _, nan, hxy => cases hxy
  | finite _ _ _, nan, hxy => cases hxy
  | inf _, inf _, hxy => cases hxy
  | inf _, finite _ n _, hxy =>
    change (if n = 0 then nan else inf _) = _ at hxy
    split at hxy <;> cases hxy
  | finite _ n _, inf _, hxy =>
    change (if n = 0 then nan else inf _) = _ at hxy
    split at hxy <;> cases hxy

/-- The smaller of a canonical datum and one at or above it, or the infinity, is the first
datum itself. -/
theorem minNum_eq_of_le {x c : Binary64} {w : ℚ} (hc : c.Represents w) (hcc : c.Canonical)
    (hx : x = inf false ∨ ∃ u, x.Represents u ∧ w ≤ u ∧ x.Canonical) : minNum x c = c := by
  rcases hx with rfl | ⟨u, hu, hwu, hxc⟩
  · exact minNum_inf hc
  · have hmin := minNum_of_represents hu hc
    rw [min_eq_right hwu] at hmin
    -- the smaller of two finite data is one of them, so it is canonical
    have hcan : (minNum x c).Canonical := by
      obtain ⟨m, e, rfl, -⟩ := id hxc
      obtain ⟨n, f, rfl, -⟩ := id hcc
      show Canonical (if lt _ _ then _ else _)
      split
      · exact hcc
      · exact hxc
    exact hcan.eq hcc hmin hc

/-! ## Results rounded once -/

/-- A datum that is the exact value `q` rounded once. -/
def Rounds (z : Binary64) (q : ℚ) : Prop :=
  ∃ N D : ℕ, 0 < D ∧ (N : ℚ) / D = q ∧ z = ofRatio false N D

theorem ofNat_rounds (n : ℕ) : (ofNat n).Rounds n := ⟨n, 1, one_pos, by simp, rfl⟩

theorem add_rounds {x y : Binary64} {u v : ℚ} (hx : x.Represents u) (hy : y.Represents v) :
    (x + y).Rounds (u + v) := by
  obtain ⟨m, e, -, rfl, rfl⟩ := hx
  obtain ⟨n, f, -, rfl, rfl⟩ := hy
  exact add_eq_ofRatio m n e f

theorem mul_rounds {x y : Binary64} {u v : ℚ} (hx : x.Represents u) (hy : y.Represents v) :
    (x * y).Rounds (u * v) := by
  obtain ⟨m, e, -, rfl, rfl⟩ := hx
  obtain ⟨n, f, -, rfl, rfl⟩ := hy
  exact mul_eq_ofRatio m n e f

theorem div_rounds {x y : Binary64} {u v : ℚ} (hx : x.Represents u) (hy : y.Represents v)
    (hv : 0 < v) : (x / y).Rounds (u / v) := by
  obtain ⟨m, e, -, rfl, rfl⟩ := hx
  obtain ⟨n, f, -, rfl, rfl⟩ := hy
  have hn : 0 < n := by
    rcases Nat.eq_zero_or_pos n with rfl | hn
    · simp at hv
    · exact hn
  exact div_eq_ofRatio m n e f hn

section Rounds

variable {z z₁ z₂ : Binary64} {q q₁ q₂ : ℚ}

theorem Rounds.mono (h₁ : z₁.Rounds q₁) (h₂ : z₂.Rounds q₂) (hq : q₁ ≤ q₂) {w₁ w₂ : ℚ}
    (hw₁ : z₁.Represents w₁) (hw₂ : z₂.Represents w₂) : w₁ ≤ w₂ := by
  obtain ⟨N₁, D₁, hD₁, hq₁, rfl⟩ := h₁
  obtain ⟨N₂, D₂, hD₂, hq₂, rfl⟩ := h₂
  exact ofRatio_mono hD₁ hD₂ (by rw [hq₁, hq₂]; exact hq) hw₁ hw₂

theorem Rounds.canonical (h : z.Rounds q) {w : ℚ} (hw : z.Represents w) : z.Canonical := by
  obtain ⟨N, D, hD, -, rfl⟩ := h
  exact ofRatio_canonical hD hw

/-- A rounded result is at least any representable value below its exact value, unless it
overflows. -/
theorem Rounds.lower (h : z.Rounds q) {y : ℚ} (hy : Representable y) (hle : y ≤ q) :
    z = inf false ∨ ∃ w, z.Represents w ∧ y ≤ w := by
  obtain ⟨N, D, hD, hq, rfl⟩ := h
  exact le_of_ofRatio hD rfl hy (hq ▸ hle)

/-- A rounded result is finite and at most any representable value above its exact value. -/
theorem Rounds.upper (h : z.Rounds q) {y : ℚ} (hy : Representable y) (hle : q ≤ y) :
    ∃ w, z.Represents w ∧ w ≤ y := by
  obtain ⟨N, D, hD, hq, rfl⟩ := h
  exact ofRatio_le hD hy (hq ▸ hle)

theorem Rounds.ge (h : z.Rounds q) {w y : ℚ} (hz : z.Represents w) (hy : Representable y)
    (hle : y ≤ q) : y ≤ w := by
  rcases h.lower hy hle with hinf | ⟨w', hw', hyw⟩
  · obtain ⟨_, _, _, hx, _⟩ := hz
    rw [hinf] at hx
    cases hx
  · rwa [hz.unique hw']

theorem Rounds.le (h : z.Rounds q) {w y : ℚ} (hz : z.Represents w) (hy : Representable y)
    (hle : q ≤ y) : w ≤ y := by
  obtain ⟨w', hw', hwy⟩ := h.upper hy hle
  rwa [hz.unique hw']

end Rounds

theorem sub_le_of_represents {x y : Binary64} {u v : ℚ} (hx : x.Represents u) (hy : y.Represents v)
    (hvu : v ≤ u) : ∃ w, (x - y).Represents w ∧ w ≤ u := by
  have hv := hy.nonneg
  obtain ⟨m, e, hfit, rfl, rfl⟩ := hx
  obtain ⟨n, f, -, rfl, rfl⟩ := hy
  obtain ⟨N, D, hD, hND, heq⟩ := sub_eq_ofRatio hvu
  rw [heq]
  exact ofRatio_le hD ⟨m, e, hfit, rfl⟩ (by rw [hND]; linarith)

/-! ## Rounding to the nearest value -/

theorem floorLog2_eq (hnum : 0 < num) (hden : 0 < den) {k : ℤ}
    (hlo : (2 : ℚ) ^ k ≤ num / den) (hhi : (num : ℚ) / den < 2 ^ (k + 1)) :
    floorLog2 num den = k := by
  obtain ⟨h₁, h₂⟩ := floorLog2_spec hnum hden
  have hle : floorLog2 num den < k + 1 := by
    by_contra h
    have := two_zpow_le_two_zpow (show k + 1 ≤ floorLog2 num den by omega)
    linarith
  have hge : k < floorLog2 num den + 1 := by
    by_contra h
    have := two_zpow_le_two_zpow (show floorLog2 num den + 1 ≤ k by omega)
    linarith
  omega

theorem roundHalfEven_eq_of_lt_half {a b M : ℕ} (hb : 0 < b) (hlo : (M : ℚ) ≤ a / b)
    (hhi : (a : ℚ) / b < M + 1 / 2) : roundHalfEven a b = M := by
  have hbq : (0 : ℚ) < b := by exact_mod_cast hb
  have h1 : M * b ≤ a := by
    rw [le_div_iff₀ hbq] at hlo
    exact_mod_cast hlo
  have h2 : 2 * a < (2 * M + 1) * b := by
    rw [div_lt_iff₀ hbq] at hhi
    have : (2 * a : ℚ) < (2 * M + 1) * b := by linarith
    exact_mod_cast this
  have hq : a / b = M := Nat.div_eq_of_lt_le h1 (by nlinarith)
  -- the remainder is under half the divisor
  have hr : 2 * (a % b) < b := by
    have := Nat.div_add_mod a b
    rw [hq] at this
    nlinarith
  unfold roundHalfEven
  dsimp only
  rw [if_pos hr, hq]

/-- A ratio less than half a last place above a normal representable value rounds to it. -/
theorem ofRatio_near {M : ℕ} {e : ℤ} (hden : 0 < den) (hM : 2 ^ 52 ≤ M) (hfit : Fits M e)
    (hlo : (M : ℚ) * 2 ^ e ≤ num / den) (hhi : (num : ℚ) / den < (M + 1 / 2) * 2 ^ e) :
    (ofRatio false num den).Represents (M * 2 ^ e) := by
  have hMq : (2 : ℚ) ^ 52 ≤ M := by exact_mod_cast hM
  have hM53 : (M : ℚ) + 1 ≤ 2 ^ 53 := by exact_mod_cast hfit.1
  have hpos := two_zpow_pos e
  have hnum : 0 < num := by
    have : (0 : ℚ) < num / den := lt_of_lt_of_le (by positivity) hlo
    exact_mod_cast (div_pos_iff_of_pos_right (by exact_mod_cast hden : (0 : ℚ) < den)).mp this
  -- the ratio lies in the binade of `M * 2 ^ e`, so its last place is `e`
  have hk : floorLog2 num den = e + 52 := by
    refine floorLog2_eq hnum hden ?_ ?_
    · calc (2 : ℚ) ^ (e + 52) = 2 ^ 52 * 2 ^ e := by rw [zpow_add₀ (by norm_num)]; norm_num; ring
        _ ≤ M * 2 ^ e := mul_le_mul_of_nonneg_right hMq hpos.le
        _ ≤ num / den := hlo
    · calc (num : ℚ) / den < (M + 1 / 2) * 2 ^ e := hhi
        _ ≤ 2 ^ 53 * 2 ^ e := mul_le_mul_of_nonneg_right (by linarith) hpos.le
        _ = 2 ^ (e + 52 + 1) := by rw [zpow_add₀ (by norm_num), zpow_add₀ (by norm_num)]; norm_num; ring
  have he : lastExp num den = e := by
    have := hfit.2.1
    rw [lastExp, hk]
    omega
  -- scaled to the last place, the ratio is within half of `M`
  have hscale : ∀ y : ℚ, y * 2 ^ e * 2 ^ (-e) = y := fun y => by
    rw [mul_assoc, ← zpow_add₀ (by norm_num), add_neg_cancel, zpow_zero, mul_one]
  have hsig : roundedSig num den = M := by
    unfold roundedSig
    rw [he]
    refine roundHalfEven_eq_of_lt_half (by positivity) ?_ ?_
    · rw [scaled_ratio, ← hscale M]
      exact mul_le_mul_of_nonneg_right hlo (two_zpow_pos _).le
    · rw [scaled_ratio, ← hscale (M + 1 / 2)]
      exact mul_lt_mul_of_pos_right hhi (two_zpow_pos _)
  rw [ofRatio_of_pos false hnum, hsig, he, if_neg (by have := hfit.1; omega),
    if_neg (by have := hfit.2.2; omega)]
  exact ⟨M, e, hfit, rfl, rfl⟩

/-- From `2 ^ 53` on, where the last place is at least two, adding less than one is lost. -/
theorem add_represents_of_lt_one {x y : Binary64} {S u : ℚ} (hx : x.Canonical) (hS : x.Represents S)
    (h53 : 2 ^ 53 ≤ S) (hy : y.Represents u) (hu : u < 1) : (x + y).Represents S := by
  obtain ⟨m, e, rfl, hm⟩ := hx
  obtain ⟨m', e', hfit, hx', rfl⟩ := hS
  cases hx'
  have he : 1 ≤ e := by
    by_contra h
    have h1 : (2 : ℚ) ^ e ≤ 1 := by
      calc (2 : ℚ) ^ e ≤ 2 ^ (0 : ℤ) := two_zpow_le_two_zpow (by omega)
        _ = 1 := zpow_zero 2
    have hm53 : (m : ℚ) < 2 ^ 53 := by exact_mod_cast hfit.1
    nlinarith [two_zpow_pos e]
  have hneg : minExp < 0 := by decide
  have hM : 2 ^ 52 ≤ m := hm.resolve_right (by omega)
  have h2 : (2 : ℚ) ≤ 2 ^ e := by
    calc (2 : ℚ) = 2 ^ (1 : ℤ) := by norm_num
      _ ≤ 2 ^ e := two_zpow_le_two_zpow he
  obtain ⟨N, D, hD, hND, heq⟩ := add_rounds ⟨m, e, hfit, rfl, rfl⟩ hy
  rw [heq]
  refine ofRatio_near hD hM hfit ?_ ?_
  · rw [hND]
    linarith [hy.nonneg]
  · rw [hND]
    linarith

end Binary64

end Throttle
