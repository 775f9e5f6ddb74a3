import LuauLayout.Binary64
import Mathlib.Algebra.Order.Field.Basic
import Mathlib.Algebra.Order.Field.Rat
import Mathlib.Algebra.Order.Ring.Abs
import Mathlib.Tactic.FieldSimp
import Mathlib.Tactic.Linarith
import Mathlib.Tactic.Positivity
import Mathlib.Tactic.Ring

/-! Rounding a quotient on the grid of its binade: that of the magnitudes of 53 bits and the spacing of
the quotient.  Every larger magnitude lies on the grid as well, while a smaller one that does not is
farther off, so the result is nearest among all magnitudes.  It reaches a power of two exactly from
halfway to it on. -/

namespace LuauLayout

namespace Binary64

/-! ### The nearest whole number -/

/-- The whole number is nearest to the quotient, and even if another is equally near. -/
structure Rounds (q : ℚ) (n : ℕ) : Prop where
  le_half : |q - n| ≤ 1 / 2
  even_of_half : |q - n| = 1 / 2 → n % 2 = 0

section Remainder

variable (num : ℕ) {den : ℕ} (hden : 0 < den)
include hden

theorem div_eq_add_remainder :
    (num : ℚ) / den = (num / den : ℕ) + (num % den : ℕ) / den := by
  have hpos : (0 : ℚ) < den := by exact_mod_cast hden
  have hdiv : (num : ℚ) = den * (num / den : ℕ) + (num % den : ℕ) := by
    exact_mod_cast (Nat.div_add_mod num den).symm
  field_simp
  exact hdiv

theorem remainder_lt_one : ((num % den : ℕ) : ℚ) / den < 1 := by
  rw [div_lt_one (by exact_mod_cast hden)]
  exact_mod_cast Nat.mod_lt num hden

theorem remainder_eq_half_iff : (num : ℚ) / den = 1 / 2 ↔ 2 * num = den := by
  have hpos : (0 : ℚ) < den := by exact_mod_cast hden
  rw [div_eq_div_iff hpos.ne' two_ne_zero, one_mul, mul_comm]
  exact_mod_cast Iff.rfl

theorem remainder_lt_half_iff : (num : ℚ) / den < 1 / 2 ↔ 2 * num < den := by
  have hpos : (0 : ℚ) < den := by exact_mod_cast hden
  rw [div_lt_div_iff₀ hpos two_pos, one_mul, mul_comm]
  exact_mod_cast Iff.rfl

/-- The quotient exceeds the whole number below it by the remainder, which tells the nearest one. -/
theorem rounds_roundDiv : Rounds (num / den) (roundDiv num den) := by
  have hhalf := remainder_eq_half_iff (num % den) hden
  have hbelow := remainder_lt_half_iff (num % den) hden
  rw [roundDiv]
  split
  · rename_i h
    have hdist : |(num : ℚ) / den - (num / den : ℕ)| = (num % den : ℕ) / den := by
      rw [div_eq_add_remainder num hden, add_sub_cancel_left, abs_of_nonneg (by positivity)]
    constructor
    · rw [hdist]
      rcases h with hlt | ⟨heq, -⟩
      · exact (hbelow.2 hlt).le
      · exact (hhalf.2 heq).le
    · rw [hdist, hhalf]
      intro heq
      rcases h with hlt | ⟨-, heven⟩
      · omega
      · exact heven
  · rename_i h
    push Not at h
    have hdist : |(num : ℚ) / den - (num / den + 1 : ℕ)| = 1 - (num % den : ℕ) / den := by
      rw [div_eq_add_remainder num hden, Nat.cast_add, Nat.cast_one, add_sub_add_left_eq_sub,
        abs_sub_comm, abs_of_pos (sub_pos.2 (remainder_lt_one num hden))]
    constructor
    · rw [hdist]
      have hge := not_lt.1 (mt hbelow.1 (not_lt.2 h.1))
      linarith
    · rw [hdist]
      intro heq
      have hodd := h.2 (hhalf.1 (by linarith))
      omega

end Remainder

namespace Rounds

variable {q : ℚ} {n : ℕ}

/-- Two whole numbers are at least one apart. -/
theorem one_le_add_abs_sub (q : ℚ) {m : ℤ} (hm : m ≠ n) : 1 ≤ |q - m| + |q - n| := by
  have hone : (1 : ℚ) ≤ |(m : ℚ) - (n : ℤ)| := by
    exact_mod_cast Int.one_le_abs (sub_ne_zero.2 hm)
  calc (1 : ℚ) ≤ |(m : ℚ) - (n : ℤ)| := hone
    _ = |(m : ℚ) - n| := by rw [Int.cast_natCast]
    _ ≤ |(m : ℚ) - q| + |q - n| := abs_sub_le _ _ _
    _ = |q - m| + |q - n| := by rw [abs_sub_comm]

theorem le_abs_sub (h : Rounds q n) (m : ℤ) : |q - n| ≤ |q - m| := by
  by_cases hm : m = n
  · rw [hm, Int.cast_natCast]
  · have hone := one_le_add_abs_sub q hm
    have hhalf := h.le_half
    linarith

theorem even_of_abs_sub_eq (h : Rounds q n) {m : ℤ} (hm : m ≠ n) (heq : |q - m| = |q - n|) :
    n % 2 = 0 := by
  have hone := one_le_add_abs_sub q hm
  have hhalf := h.le_half
  exact h.even_of_half (by linarith)

/-- Of two whole numbers that are equally near, the other one is odd. -/
theorem odd_of_abs_sub_eq (h : Rounds q n) {m : ℕ} (hm : m ≠ n) (heq : |q - m| = |q - n|) :
    m % 2 = 1 ∧ |q - m| = 1 / 2 := by
  have hm' : (m : ℤ) ≠ n := by exact_mod_cast hm
  have hone := one_le_add_abs_sub q hm'
  have hhalf := h.le_half
  rw [Int.cast_natCast] at hone
  have hn : |q - n| = 1 / 2 := by linarith
  have heven := h.even_of_half hn
  refine ⟨?_, heq.trans hn⟩
  have hstep : (m : ℚ) = n + 1 ∨ (m : ℚ) + 1 = n := by
    rcases abs_eq_abs.1 heq with hsame | hopposite
    · exact absurd (by exact_mod_cast sub_right_injective hsame) hm
    · rcases (abs_eq (by norm_num)).1 hn with hq | hq
      · left
        linarith
      · right
        linarith
  rcases hstep with hstep | hstep
  · have hstep : m = n + 1 := by exact_mod_cast hstep
    omega
  · have hstep : m + 1 = n := by exact_mod_cast hstep
    omega

theorem le_of_lt (h : Rounds q n) {m : ℕ} (hq : q < m + 1 / 2) : n ≤ m := by
  have hhalf := (abs_le.1 h.le_half).1
  have hlt : (n : ℚ) < m + 1 := by linarith
  exact Nat.lt_succ_iff.1 (by exact_mod_cast hlt)

theorem le_of_le (h : Rounds q n) {m : ℕ} (hq : (m : ℚ) ≤ q) : m ≤ n := by
  have hhalf := (abs_le.1 h.le_half).2
  have hlt : (m : ℚ) < n + 1 := by linarith
  exact Nat.lt_succ_iff.1 (by exact_mod_cast hlt)

/-- A half below an even number is rounded up to it. -/
theorem le_of_half_le (h : Rounds q n) {m : ℕ} (heven : m % 2 = 0) (hq : (m : ℚ) - 1 / 2 ≤ q) :
    m ≤ n := by
  by_contra hlt
  have hle : (n : ℚ) + 1 ≤ m := by exact_mod_cast not_le.1 hlt
  have hhalf := (abs_le.1 h.le_half).2
  have hn : (n : ℚ) + 1 = m := by linarith
  have hdist : |q - n| = 1 / 2 := by
    rw [abs_of_nonneg (by linarith)]
    linarith
  have := h.even_of_half hdist
  have : n + 1 = m := by exact_mod_cast hn
  omega

end Rounds

/-! ### The grid of a magnitude -/

theorem lt_mul_spacing (units : ℕ) : units < 2 ^ 53 * 2 ^ spacing units := by
  rw [← pow_add]
  have hle : units.log2 + 1 ≤ 53 + spacing units := by
    rw [spacing]
    omega
  exact Nat.lt_log2_self.trans_le (Nat.pow_le_pow_right two_pos hle)

theorem mul_spacing_le {units : ℕ} (h : spacing units ≠ 0) :
    2 ^ 52 * 2 ^ spacing units ≤ units := by
  have hlog : 52 + spacing units = units.log2 := by
    rw [spacing] at h ⊢
    omega
  have hne : units ≠ 0 := by
    rintro rfl
    exact h rfl
  rw [← pow_add, hlog]
  exact Nat.log2_self_le hne

/-- A whole number of 53 bits, or of fewer where nothing is smaller, is its own significand. -/
theorem spacing_mul {n k : ℕ} (hn : n < 2 ^ 53) (hk : k = 0 ∨ 2 ^ 52 ≤ n) :
    spacing (n * 2 ^ k) = k := by
  rcases Nat.eq_zero_or_pos n with rfl | hpos
  · obtain rfl : k = 0 := hk.resolve_right (by decide)
    rfl
  · have hlt := (Nat.log2_lt hpos.ne').2 hn
    have hlog : (n * 2 ^ k).log2 = n.log2 + k := by
      have hne : n * 2 ^ k ≠ 0 := (Nat.mul_pos hpos (Nat.two_pow_pos k)).ne'
      rw [Nat.log2_eq_iff hne, Nat.add_right_comm, pow_add, pow_add]
      exact ⟨Nat.mul_le_mul_right _ (Nat.log2_self_le hpos.ne'),
        Nat.mul_lt_mul_of_pos_right Nat.lt_log2_self (Nat.two_pow_pos k)⟩
    rw [spacing, hlog]
    rcases hk with rfl | hlow
    · omega
    · have hle := (Nat.le_log2 hpos.ne').2 hlow
      omega

/-- Whole magnitudes of at most 53 bits are multiples of their spacing. -/
theorem mod_spacing_mul {n k : ℕ} (hn : n ≤ 2 ^ 53) (hk : k = 0 ∨ 2 ^ 52 ≤ n) :
    n * 2 ^ k % 2 ^ spacing (n * 2 ^ k) = 0 ∧
      (n % 2 = 0 → n * 2 ^ k / 2 ^ spacing (n * 2 ^ k) % 2 = 0) := by
  rcases hn.lt_or_eq with hlt | rfl
  · rw [spacing_mul hlt hk, Nat.mul_div_cancel _ (Nat.two_pow_pos k)]
    exact ⟨Nat.mul_mod_left _ _, id⟩
  · -- the next power of two belongs to the binade above, where its significand is even
    have hsplit : 2 ^ 53 * 2 ^ k = 2 ^ 52 * 2 ^ (k + 1) := by
      rw [← pow_add, ← pow_add]
      congr 1
      omega
    rw [hsplit, spacing_mul (by decide) (Or.inr le_rfl),
      Nat.mul_div_cancel _ (Nat.two_pow_pos (k + 1))]
    exact ⟨Nat.mul_mod_left _ _, fun _ => by decide⟩

/-- From the first magnitude of a spacing on, all magnitudes are multiples of it. -/
theorem dvd_of_le {units k : ℕ} (hgrid : units % 2 ^ spacing units = 0)
    (h : 2 ^ 52 * 2 ^ k ≤ units) : 2 ^ k ∣ units := by
  have hne : units ≠ 0 := by
    have := Nat.two_pow_pos k
    omega
  have hlog : 52 + k ≤ units.log2 := by
    by_contra hlt
    have := (Nat.log2_lt hne).1 (not_le.1 hlt)
    rw [pow_add] at this
    omega
  have hk : k ≤ spacing units := by
    rw [spacing]
    omega
  exact (Nat.pow_dvd_pow 2 hk).trans (Nat.dvd_of_mod_eq_zero hgrid)

/-- The quotient is rounded to `n` on the grid of the multiples of `2 ^ k`, the grid of its binade. -/
structure RoundsOnGrid (r : ℚ) (n k : ℕ) : Prop where
  rounds : Rounds (r / 2 ^ k) n
  lt : r < 2 ^ 53 * 2 ^ k
  le : k = 0 ∨ 2 ^ 52 * 2 ^ k ≤ r

theorem exists_roundsOnGrid (num : ℕ) {den : ℕ} (hden : 0 < den) :
    ∃ n k, RoundsOnGrid (num / den) n k ∧ roundUnits num den = n * 2 ^ k := by
  have hpos : (0 : ℚ) < den := by exact_mod_cast hden
  refine ⟨_, spacing (num / den), ⟨?_, ?_, ?_⟩, rfl⟩
  · have hrounds := rounds_roundDiv num (Nat.mul_pos hden (Nat.two_pow_pos (spacing (num / den))))
    rw [div_div]
    exact_mod_cast hrounds
  · rw [div_lt_iff₀ hpos]
    have hlt := (Nat.div_lt_iff_lt_mul hden).1 (lt_mul_spacing (num / den))
    exact_mod_cast hlt
  · by_cases h : spacing (num / den) = 0
    · exact Or.inl h
    · right
      rw [le_div_iff₀ hpos]
      have hle := (Nat.le_div_iff_mul_le hden).1 (mul_spacing_le h)
      exact_mod_cast hle

namespace RoundsOnGrid

variable {r : ℚ} {n k : ℕ}

theorem two_pow_pos (k : ℕ) : (0 : ℚ) < 2 ^ k := by positivity

theorem le_pow (h : RoundsOnGrid r n k) : n ≤ 2 ^ 53 := by
  apply h.rounds.le_of_lt
  have := (div_lt_iff₀ (two_pow_pos k)).2 h.lt
  push_cast
  linarith

theorem pow_le (h : RoundsOnGrid r n k) : k = 0 ∨ 2 ^ 52 ≤ n := by
  refine h.le.imp_right fun hle => ?_
  apply h.rounds.le_of_le
  rw [le_div_iff₀ (two_pow_pos k)]
  exact_mod_cast hle

theorem abs_sub_mul (k : ℕ) (r m : ℚ) : |r - m * 2 ^ k| = |r / 2 ^ k - m| * 2 ^ k := by
  rw [← abs_of_pos (two_pow_pos k), ← abs_mul, sub_mul, abs_of_pos (two_pow_pos k),
    div_mul_cancel₀ _ (two_pow_pos k).ne']

/-- A double that is no multiple of the grid is smaller than all of its binade, and farther off. -/
theorem lt_abs_sub_of_not_dvd (h : RoundsOnGrid r n k) {y : ℤ}
    (hgrid : y.natAbs % 2 ^ spacing y.natAbs = 0) (hdvd : ¬2 ^ k ∣ y.natAbs) :
    |r - n * 2 ^ k| < |r - y| := by
  have hk : k ≠ 0 := by
    rintro rfl
    exact hdvd (one_dvd _)
  have hr : 2 ^ 52 * 2 ^ k ≤ r := h.le.resolve_left hk
  have hsmall : y.natAbs < 2 ^ 52 * 2 ^ k := not_le.1 (mt (dvd_of_le hgrid) hdvd)
  have hy : (y : ℚ) < 2 ^ 52 * 2 ^ k := by
    have : y < 2 ^ 52 * 2 ^ k := by
      have hle : y ≤ y.natAbs := Int.le_natAbs
      have hlt : (y.natAbs : ℤ) < 2 ^ 52 * 2 ^ k := by exact_mod_cast hsmall
      exact hle.trans_lt hlt
    exact_mod_cast this
  have hnear := h.rounds.le_abs_sub (2 ^ 52)
  calc |r - n * 2 ^ k| = |r / 2 ^ k - n| * 2 ^ k := abs_sub_mul k r n
    _ ≤ |r / 2 ^ k - (2 ^ 52 : ℤ)| * 2 ^ k := mul_le_mul_of_nonneg_right hnear (two_pow_pos k).le
    _ = |r - 2 ^ 52 * 2 ^ k| := by rw [abs_sub_mul]; norm_cast
    _ = r - 2 ^ 52 * 2 ^ k := abs_of_nonneg (by linarith)
    _ < r - y := by linarith
    _ ≤ |r - y| := le_abs_self _

theorem exists_eq_mul {y : ℤ} (hdvd : 2 ^ k ∣ y.natAbs) : ∃ m : ℤ, (y : ℚ) = m * 2 ^ k := by
  have hdvd : (2 ^ k : ℤ) ∣ y := by
    rw [← Int.natAbs_dvd_natAbs, Int.natAbs_pow]
    exact hdvd
  obtain ⟨m, rfl⟩ := hdvd
  exact ⟨m, by push_cast; ring⟩

theorem le_abs_sub (h : RoundsOnGrid r n k) {y : ℤ}
    (hgrid : y.natAbs % 2 ^ spacing y.natAbs = 0) : |r - n * 2 ^ k| ≤ |r - y| := by
  by_cases hdvd : 2 ^ k ∣ y.natAbs
  · obtain ⟨m, hm⟩ := exists_eq_mul hdvd
    rw [hm, abs_sub_mul, abs_sub_mul]
    exact mul_le_mul_of_nonneg_right (h.rounds.le_abs_sub m) (two_pow_pos k).le
  · exact (h.lt_abs_sub_of_not_dvd hgrid hdvd).le

theorem even_of_abs_sub_eq (h : RoundsOnGrid r n k) {y : ℤ}
    (hgrid : y.natAbs % 2 ^ spacing y.natAbs = 0) (hy : (y : ℚ) ≠ n * 2 ^ k)
    (heq : |r - y| = |r - n * 2 ^ k|) : n % 2 = 0 := by
  by_cases hdvd : 2 ^ k ∣ y.natAbs
  · obtain ⟨m, hm⟩ := exists_eq_mul hdvd
    rw [hm, abs_sub_mul, abs_sub_mul] at heq
    refine h.rounds.even_of_abs_sub_eq (m := m) ?_ (mul_right_cancel₀ (two_pow_pos k).ne' heq)
    rintro rfl
    exact hy (by exact_mod_cast hm)
  · exact absurd heq (h.lt_abs_sub_of_not_dvd hgrid hdvd).ne'

/-- Of two magnitudes that are equally near, the other one has an odd significand. -/
theorem odd_of_abs_sub_eq (h : RoundsOnGrid r n k) {units : ℕ}
    (hgrid : units % 2 ^ spacing units = 0) (hne : units ≠ n * 2 ^ k)
    (heq : |r - units| = |r - n * 2 ^ k|) : units / 2 ^ spacing units % 2 = 1 := by
  have hdvd : 2 ^ k ∣ units := by
    by_contra hdvd
    have hlt := h.lt_abs_sub_of_not_dvd (y := units) hgrid hdvd
    rw [Int.cast_natCast] at hlt
    exact absurd heq hlt.ne'
  obtain ⟨m, rfl⟩ := hdvd
  rw [Nat.mul_comm] at hgrid hne heq ⊢
  rw [Nat.cast_mul, Nat.cast_pow, Nat.cast_ofNat, abs_sub_mul, abs_sub_mul] at heq
  have hm : m ≠ n := by
    rintro rfl
    exact hne rfl
  obtain ⟨hodd, hhalf⟩ :=
    h.rounds.odd_of_abs_sub_eq hm (mul_right_cancel₀ (two_pow_pos k).ne' heq)
  obtain ⟨hlow, hhigh⟩ := abs_le.1 hhalf.le
  have hlt : m < 2 ^ 53 := by
    have hr := (div_lt_iff₀ (two_pow_pos k)).2 h.lt
    have hle : (m : ℚ) < 2 ^ 53 + 1 := by linarith
    have : m < 2 ^ 53 + 1 := by exact_mod_cast hle
    omega
  have hk : k = 0 ∨ 2 ^ 52 ≤ m := by
    refine h.le.imp_right fun hle => ?_
    have hr := (le_div_iff₀ (two_pow_pos k)).2 hle
    have hge : (2 : ℚ) ^ 52 < m + 1 := by linarith
    have : 2 ^ 52 < m + 1 := by exact_mod_cast hge
    omega
  rwa [spacing_mul hlt hk, Nat.mul_div_cancel _ (Nat.two_pow_pos k)]

/-- The rounded magnitude stays below a power of two exactly if the quotient is less than halfway from
the last magnitude below the power to the power. -/
theorem lt_iff (h : RoundsOnGrid r n k) (e : ℕ) :
    n * 2 ^ k < 2 ^ 53 * 2 ^ e ↔ r < (2 ^ 53 - 1 / 2) * 2 ^ e := by
  have hpos := two_pow_pos e
  have hdouble : ∀ {i j : ℕ}, i < j → 2 * 2 ^ i ≤ 2 ^ j := by
    intro i j hlt
    rw [← pow_succ']
    exact Nat.pow_le_pow_right two_pos hlt
  rcases lt_trichotomy k e with hlt | rfl | hgt
  · have hstep := hdouble hlt
    have hstep' : (2 : ℚ) * 2 ^ k ≤ 2 ^ e := by exact_mod_cast hstep
    refine iff_of_true ?_ ?_
    · have := Nat.mul_le_mul_right (2 ^ k) h.le_pow
      have := Nat.two_pow_pos e
      omega
    · have := h.lt
      linarith
  · rw [Nat.mul_lt_mul_right (Nat.two_pow_pos k), ← div_lt_iff₀ hpos]
    constructor
    · intro hn
      by_contra hle
      have := h.rounds.le_of_half_le (m := 2 ^ 53) (by decide) (by push_cast; linarith)
      omega
    · intro hr
      have := h.rounds.le_of_lt (m := 2 ^ 53 - 1) (by push_cast; linarith)
      omega
  · have hstep := hdouble hgt
    have hstep' : (2 : ℚ) * 2 ^ e ≤ 2 ^ k := by exact_mod_cast hstep
    have hk : k ≠ 0 := by omega
    refine iff_of_false (not_lt.2 ?_) (not_lt.2 ?_)
    · have := Nat.mul_le_mul_right (2 ^ k) (h.pow_le.resolve_left hk)
      omega
    · have := h.le.resolve_left hk
      linarith

end RoundsOnGrid

end Binary64

end LuauLayout
