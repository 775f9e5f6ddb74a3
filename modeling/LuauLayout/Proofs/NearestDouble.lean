import LuauLayout.Number.Decimal
import LuauLayout.Proofs.GridRounding
import Mathlib.Algebra.Order.Field.Power

/-! The double nearest to a decimal.  The bounds beyond which a decimal is taken for zero or for infinite
without a division agree with the division, so every decimal is rounded in one way: to a nearest
double, one with an even significand if two are equally near, and to none from halfway between the
largest double and the next power of two on. -/

namespace LuauLayout

/-- The sign of a number as a factor. -/
def signFactor (negative : Bool) : ℚ := if negative then -1 else 1

theorem abs_signFactor_mul (negative : Bool) (q : ℚ) : |signFactor negative * q| = |q| := by
  cases negative <;> simp [signFactor]

namespace Binary64

/-- The value of a double. -/
def toRat (x : Binary64) : ℚ := x.toUnits / 2 ^ 1074

theorem toRat_eq (x : Binary64) : x.toRat = signFactor x.negative * (x.units / 2 ^ 1074) := by
  have hunits : (x.toUnits : ℚ) = signFactor x.negative * x.units := by
    rw [toUnits, signFactor]
    cases x.negative <;> simp
  rw [toRat, hunits, mul_div_assoc]

theorem abs_toRat (x : Binary64) : |x.toRat| = x.units / 2 ^ 1074 := by
  rw [toRat_eq, abs_signFactor_mul, abs_of_nonneg (by positivity)]

/-- The magnitude in units of its spacing. -/
def significand (x : Binary64) : ℕ := x.units / 2 ^ spacing x.units

/-- No double is nearer to the value, and the significand is even if another double is equally near. -/
structure IsNearest (q : ℚ) (x : Binary64) : Prop where
  le : ∀ y : Binary64, |q - x.toRat| ≤ |q - y.toRat|
  even_of_eq : ∀ y : Binary64, y.toRat ≠ x.toRat → |q - y.toRat| = |q - x.toRat| →
    x.significand % 2 = 0

/-! ### Distances in units -/

/-- The units of a double, counted in the direction of a sign. -/
def directed (negative : Bool) (x : Binary64) : ℤ := if negative then -x.toUnits else x.toUnits

theorem natAbs_directed (negative : Bool) (x : Binary64) :
    (x.directed negative).natAbs = x.units := by
  rw [directed, toUnits]
  cases negative <;> cases x.negative <;> simp

theorem directed_self (x : Binary64) : x.directed x.negative = x.units := by
  rw [directed, toUnits]
  cases x.negative <;> simp

theorem directed_ne {negative : Bool} {x y : Binary64} (h : y.toRat ≠ x.toRat) :
    y.directed negative ≠ x.directed negative := by
  intro heq
  apply h
  have hunits : y.toUnits = x.toUnits := by
    rw [directed, directed] at heq
    cases negative
    · exact heq
    · exact neg_inj.1 heq
  rw [toRat, toRat, hunits]

theorem abs_sub_toRat (negative : Bool) (r : ℚ) (x : Binary64) :
    |signFactor negative * (r / 2 ^ 1074) - x.toRat| =
      |r - x.directed negative| / 2 ^ 1074 := by
  have hpos : (0 : ℚ) < 2 ^ 1074 := by positivity
  rw [toRat, directed]
  generalize (2 : ℚ) ^ 1074 = unit at hpos ⊢
  cases negative
  · simp only [signFactor, Bool.false_eq_true, if_false, one_mul]
    rw [← sub_div, abs_div, abs_of_pos hpos]
  · simp only [signFactor, if_true, Int.cast_neg]
    rw [neg_one_mul, sub_neg_eq_add, ← neg_add', abs_neg, ← add_div, abs_div, abs_of_pos hpos]

theorem isNearest_of_roundsOnGrid {r : ℚ} {n k : ℕ} (h : RoundsOnGrid r n k) {x : Binary64}
    (hx : x.units = n * 2 ^ k) : x.IsNearest (signFactor x.negative * (r / 2 ^ 1074)) := by
  have hself : ((x.directed x.negative : ℤ) : ℚ) = n * 2 ^ k := by
    rw [directed_self, hx]
    push_cast
    rfl
  have hgrid : ∀ y : Binary64, (y.directed x.negative).natAbs %
      2 ^ spacing (y.directed x.negative).natAbs = 0 := by
    intro y
    rw [natAbs_directed]
    exact y.representable.1
  constructor
  · intro y
    rw [abs_sub_toRat, abs_sub_toRat, hself]
    exact div_le_div_of_nonneg_right (h.le_abs_sub (hgrid y)) (by positivity)
  · intro y hne heq
    rw [abs_sub_toRat, abs_sub_toRat, hself, div_left_inj' (by positivity)] at heq
    have hy : ((y.directed x.negative : ℤ) : ℚ) ≠ n * 2 ^ k := by
      rw [← hself]
      exact_mod_cast directed_ne hne
    rw [significand, hx]
    exact (mod_spacing_mul h.le_pow h.pow_le).2 (h.even_of_abs_sub_eq (hgrid y) hy heq)

theorem units_eq_of_toRat_eq {x y : Binary64} (h : x.toRat = y.toRat) : x.units = y.units := by
  have hpos : (0 : ℚ) < 2 ^ 1074 := by positivity
  have habs : (x.units : ℚ) / 2 ^ 1074 = y.units / 2 ^ 1074 := by rw [← abs_toRat, h, abs_toRat]
  exact_mod_cast (div_left_inj' hpos.ne').1 habs

/-- Of two doubles of a sign that are equally near, one has an odd significand. -/
theorem eq_of_isNearest {r : ℚ} {n k : ℕ} (h : RoundsOnGrid r n k) {x y : Binary64}
    (hx : x.units = n * 2 ^ k) (hsign : y.negative = x.negative)
    (hy : y.IsNearest (signFactor x.negative * (r / 2 ^ 1074))) : y = x := by
  by_contra hne
  have hpos : (0 : ℚ) < 2 ^ 1074 := by positivity
  have hunits : y.units ≠ x.units := fun heq => hne (ext_iff.2 ⟨hsign, heq⟩)
  have hrat : x.toRat ≠ y.toRat := fun heq => hunits (units_eq_of_toRat_eq heq).symm
  have hdist := le_antisymm ((isNearest_of_roundsOnGrid h hx).le y) (hy.le x)
  have heven := hy.even_of_eq x hrat hdist
  have hdirected : y.directed x.negative = y.units := hsign ▸ directed_self y
  rw [abs_sub_toRat, abs_sub_toRat, directed_self, hdirected, div_left_inj' hpos.ne',
    Int.cast_natCast, Int.cast_natCast, hx, Nat.cast_mul, Nat.cast_pow, Nat.cast_ofNat] at hdist
  have hodd := h.odd_of_abs_sub_eq y.representable.1 (hx ▸ hunits) hdist.symm
  rw [significand] at heven
  omega

/-! ### Rounding a quotient -/

/-- Halfway between the largest double and the next power of two. -/
def overflow : ℚ := 2 ^ 1024 - 2 ^ 970

theorem overflow_eq : (2 ^ 53 - 1 / 2) * 2 ^ 2045 = overflow * 2 ^ 1074 := by
  have hunit : (2 : ℚ) ^ 2045 = 2 * 2 ^ 970 * 2 ^ 1074 := by rw [← pow_succ', ← pow_add]
  have htop : (2 : ℚ) ^ 1024 = 2 ^ 53 * (2 * 2 ^ 970) := by rw [← pow_succ', ← pow_add]
  rw [overflow, hunit, htop]
  generalize (2 : ℚ) ^ 970 = a
  generalize (2 : ℚ) ^ 1074 = b
  ring

theorem cast_one : (one : ℚ) = 2 ^ 1074 := by
  unfold one
  -- a literal exponent of this size would be evaluated
  generalize 1074 = exponent
  exact Nat.cast_pow 2 exponent

theorem representable_iff {units : ℕ} :
    Representable units ↔ units % 2 ^ spacing units = 0 ∧ units < 2 ^ 53 * 2 ^ 2045 := by
  have hexponent : 53 + 2045 = 2098 := rfl
  rw [← pow_add, hexponent]
  unfold Representable
  generalize 2098 = exponent
  exact Iff.rfl

/-- The quotient in units is rounded on a grid, to a double exactly if it is below the bound. -/
theorem exists_ofRatio (negative : Bool) (num : ℕ) {den : ℕ} (hden : 0 < den) :
    ∃ n k, RoundsOnGrid (num / den * 2 ^ 1074) n k ∧
      (Representable (n * 2 ^ k) ↔ (num / den : ℚ) < overflow) ∧
      Extended.ofRatio negative num den = Extended.ofUnits negative (n * 2 ^ k) := by
  obtain ⟨n, k, h, hround⟩ := exists_roundsOnGrid (num * one) hden
  have hone : ((num * one : ℕ) : ℚ) / den = num / den * 2 ^ 1074 := by
    rw [Nat.cast_mul, mul_div_right_comm, cast_one]
  rw [hone] at h
  have hpos : (0 : ℚ) < 2 ^ 1074 := by positivity
  refine ⟨n, k, h, ?_, by rw [Extended.ofRatio, hround]⟩
  rw [representable_iff, and_iff_right (mod_spacing_mul h.le_pow h.pow_le).1, h.lt_iff,
    overflow_eq, mul_lt_mul_iff_of_pos_right hpos]

/-- A quotient below the bound is rounded to the nearest double of its sign. -/
theorem exists_ofRatio_eq_finite (negative : Bool) {num den : ℕ} (hden : 0 < den)
    (hlt : (num / den : ℚ) < overflow) :
    ∃ x, Extended.ofRatio negative num den = .finite x ∧
      ∀ y, y = x ↔ y.negative = negative ∧ y.IsNearest (signFactor negative * (num / den)) := by
  obtain ⟨n, k, h, hrepresentable, hround⟩ := exists_ofRatio negative num hden
  have hx := hrepresentable.2 hlt
  have hself := isNearest_of_roundsOnGrid h (x := ⟨negative, n * 2 ^ k, hx⟩) rfl
  have hpos : (0 : ℚ) < 2 ^ 1074 := by positivity
  rw [hround, Extended.ofUnits, dif_pos hx]
  refine ⟨_, rfl, fun y => ?_⟩
  rw [← mul_div_cancel_right₀ (num / den : ℚ) hpos.ne']
  constructor
  · rintro rfl
    exact ⟨rfl, hself⟩
  · rintro ⟨hsign, hnearest⟩
    exact eq_of_isNearest h rfl hsign hnearest

theorem ofRatio_eq_infinity (negative : Bool) {num den : ℕ} (hden : 0 < den)
    (hle : overflow ≤ (num / den : ℚ)) :
    Extended.ofRatio negative num den = .infinity negative := by
  obtain ⟨n, k, -, hrepresentable, hround⟩ := exists_ofRatio negative num hden
  rw [hround]
  exact dif_neg (mt hrepresentable.1 (not_lt.2 hle))

/-- Less than half a unit is rounded to zero. -/
theorem ofRatio_of_lt (negative : Bool) (num : ℕ) {den : ℕ} (hden : 0 < den)
    (h : (num / den : ℚ) * 2 ^ 1074 < 1 / 2) :
    Extended.ofRatio negative num den = .finite (.zero negative) := by
  obtain ⟨n, k, hgrid, -, hround⟩ := exists_ofRatio negative num hden
  have hk : k = 0 := by
    refine hgrid.le.resolve_right fun hle => ?_
    have hone : (1 : ℚ) ≤ 2 ^ k := one_le_pow₀ one_le_two
    have hlt := hle.trans_lt h
    linarith only [hone, hlt]
  subst hk
  have hn : n ≤ 0 := by
    apply hgrid.rounds.le_of_lt
    rwa [pow_zero, div_one, Nat.cast_zero, zero_add]
  obtain rfl : n = 0 := Nat.le_zero.1 hn
  rw [hround, Nat.zero_mul]
  exact dif_pos representable_zero

end Binary64

/-! ### Rounding a decimal -/

namespace Decimal

open Binary64 (Extended)

/-- The value of a decimal. -/
def toRat (d : Decimal) : ℚ := signFactor d.negative * (d.coefficient * 10 ^ d.exponent)

theorem ratio_pos (d : Decimal) : 0 < d.ratio.2 := by
  rw [ratio]
  split
  · exact Nat.pow_pos (by decide)
  · exact Nat.one_pos

theorem ratio_eq (d : Decimal) :
    (d.ratio.1 / d.ratio.2 : ℚ) = d.coefficient * 10 ^ d.exponent := by
  have hcast : ∀ n : ℕ, ((Nat.pow 10 n : ℕ) : ℚ) = 10 ^ (n : ℤ) := by
    intro n
    rw [Nat.pow_eq, Nat.cast_pow, zpow_natCast]
    rfl
  rw [ratio]
  split
  · rename_i h
    dsimp only
    rw [hcast, Int.toNat_of_nonneg (by omega), zpow_neg, div_inv_eq_mul]
  · rename_i h
    dsimp only
    rw [Nat.cast_one, div_one, Nat.cast_mul, hcast, Int.toNat_of_nonneg (by omega)]

theorem lt_pow_length (n : ℕ) : n < 10 ^ length n :=
  (Nat.length_toDigits_le_iff (by decide) (List.length_pos_iff.2 Nat.toDigits_ne_nil)).1 le_rfl

theorem pow_length_le {n : ℕ} (h : n ≠ 0) : 10 ^ (length n - 1) ≤ n := by
  rcases Nat.eq_zero_or_pos (length n - 1) with hzero | hpred
  · rw [hzero]
    exact Nat.pos_of_ne_zero h
  · by_contra hlt
    have hle : length n ≤ length n - 1 :=
      (Nat.length_toDigits_le_iff (by decide) hpred).2 (not_le.1 hlt)
    omega

/-- A positive decimal lies between the powers of ten that its length and exponent tell. -/
theorem coefficient_mul_bounds {d : Decimal} (h : d.coefficient ≠ 0) :
    (10 : ℚ) ^ (d.exponent + length d.coefficient - 1) ≤ d.coefficient * 10 ^ d.exponent ∧
      (d.coefficient * 10 ^ d.exponent : ℚ) < 10 ^ (d.exponent + length d.coefficient) := by
  have hpos : (0 : ℚ) < 10 ^ d.exponent := by positivity
  have hlength : 0 < length d.coefficient := List.length_pos_iff.2 Nat.toDigits_ne_nil
  have hsplit : ∀ n : ℕ, (10 : ℚ) ^ (d.exponent + n) = 10 ^ n * 10 ^ d.exponent := by
    intro n
    rw [zpow_add₀ (by norm_num), zpow_natCast, mul_comm]
  have hpred : d.exponent + length d.coefficient - 1 =
      d.exponent + (length d.coefficient - 1 : ℕ) := by omega
  rw [hpred, hsplit, hsplit]
  constructor
  · exact mul_le_mul_of_nonneg_right (by exact_mod_cast pow_length_le h) hpos.le
  · exact mul_lt_mul_of_pos_right (by exact_mod_cast lt_pow_length _) hpos

theorem overflow_le : Binary64.overflow ≤ 10 ^ (310 : ℤ) := by
  have hpow : (2 : ℚ) ^ 1024 ≤ 10 ^ 310 := by
    have : 2 ^ 1024 ≤ 10 ^ 310 := by decide +kernel
    exact_mod_cast this
  have hpos : (0 : ℚ) < 2 ^ 970 := by positivity
  rw [Binary64.overflow]
  refine (sub_lt_self _ hpos).le.trans (hpow.trans_eq ?_)
  exact (zpow_natCast 10 310).symm

theorem underflow_lt : (10 : ℚ) ^ (-331 : ℤ) * 2 ^ 1074 < 1 / 2 := by
  have hpow : (2 : ℚ) * 2 ^ 1074 < 10 ^ 331 := by
    have : 2 * 2 ^ 1074 < 10 ^ 331 := by decide +kernel
    exact_mod_cast this
  have hpos : (0 : ℚ) < 10 ^ 331 := by positivity
  rw [zpow_neg, zpow_ofNat, inv_mul_lt_iff₀ hpos]
  generalize (10 : ℚ) ^ 331 = a at hpow ⊢
  generalize (2 : ℚ) ^ 1074 = b at hpow ⊢
  linarith

/-- The bounds beyond which nothing is divided agree with the division. -/
theorem nearest_eq_ofRatio (d : Decimal) :
    d.nearest = Extended.ofRatio d.negative d.ratio.1 d.ratio.2 := by
  have hpos := d.ratio_pos
  rw [nearest]
  split
  · rename_i h
    refine (Binary64.ofRatio_of_lt d.negative d.ratio.1 hpos ?_).symm
    rw [ratio_eq, h]
    norm_num
  · rename_i hne
    have hbounds := coefficient_mul_bounds hne
    split
    · rename_i h
      refine (Binary64.ofRatio_eq_infinity d.negative hpos ?_).symm
      rw [ratio_eq]
      refine overflow_le.trans (le_trans ?_ hbounds.1)
      exact zpow_le_zpow_right₀ (by norm_num) (by omega)
    · split
      · rename_i h
        refine (Binary64.ofRatio_of_lt d.negative d.ratio.1 hpos ?_).symm
        rw [ratio_eq]
        have hle : (10 : ℚ) ^ (d.exponent + length d.coefficient) ≤ 10 ^ (-331 : ℤ) :=
          zpow_le_zpow_right₀ (by norm_num) (by omega)
        exact (mul_le_mul_of_nonneg_right (hbounds.2.le.trans hle) (by positivity)).trans_lt
          underflow_lt
      · rfl

theorem abs_toRat (d : Decimal) : |d.toRat| = d.ratio.1 / d.ratio.2 := by
  rw [toRat, abs_signFactor_mul, ratio_eq, abs_of_nonneg (by positivity)]

/-- A decimal below the bound is read as the nearest double of its sign. -/
theorem exists_nearest_eq_finite {d : Decimal} (h : |d.toRat| < Binary64.overflow) :
    ∃ x, d.nearest = .finite x ∧ ∀ y, y = x ↔ y.negative = d.negative ∧ y.IsNearest d.toRat := by
  rw [abs_toRat] at h
  rw [nearest_eq_ofRatio, toRat, ← ratio_eq]
  exact Binary64.exists_ofRatio_eq_finite d.negative d.ratio_pos h

theorem nearest_eq_infinity {d : Decimal} (h : Binary64.overflow ≤ |d.toRat|) :
    d.nearest = .infinity d.negative := by
  rw [abs_toRat] at h
  rw [nearest_eq_ofRatio]
  exact Binary64.ofRatio_eq_infinity d.negative d.ratio_pos h

end Decimal

end LuauLayout
