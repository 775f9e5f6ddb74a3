import LuauLayout.Proofs.LiteralForm

/-! Literals read back.  The shortest decimal of a double reads as that double, so a literal denotes the
number that it was written for, although a whole double below `10 ^ 16` comes back as a whole number; and
it is the literal of what it denotes. -/

namespace LuauLayout

open Text (strip isBlank IsStripped)

/-! ### Doubles that are decimals -/

namespace Binary64

/-- A double without a fraction is its whole part. -/
theorem toRat_of_isIntegral {x : Binary64} (h : x.isIntegral = true) : x.toRat = x.truncate := by
  have hmod : x.units % one = 0 := by simpa [isIntegral] using h
  have hunits : (x.units : ℚ) = (x.units / one : ℕ) * 2 ^ 1074 := by
    rw [← cast_one]
    exact_mod_cast (Nat.div_mul_cancel (Nat.dvd_of_mod_eq_zero hmod)).symm
  have hpos : (0 : ℚ) < 2 ^ 1074 := by positivity
  rw [toRat_eq, hunits, mul_div_cancel_right₀ _ hpos.ne', truncate, signFactor]
  cases x.negative
  · rw [if_neg (by decide), if_neg (by decide), one_mul, Int.cast_natCast]
  · rw [if_pos rfl, if_pos rfl, neg_one_mul, Int.cast_neg, Int.cast_natCast]

theorem isIntegral_of_toRat_eq {x : Binary64} {k : ℤ} (h : x.toRat = k) : x.isIntegral = true := by
  have hpos : (0 : ℚ) < 2 ^ 1074 := by positivity
  have hunits : (x.units : ℚ) = (k.natAbs * one : ℕ) := by
    have habs := x.abs_toRat
    rw [h, eq_div_iff hpos.ne'] at habs
    rw [← habs, Nat.cast_mul, cast_one, Nat.cast_natAbs, Int.cast_abs]
  have hunits : x.units = k.natAbs * one := by exact_mod_cast hunits
  rw [isIntegral, hunits, Nat.mul_mod_left]
  rfl

/-- A value that is a double is rounded to it. -/
theorem ofRatio_of_eq {x : Binary64} {num den : ℕ} (hden : 0 < den)
    (h : (num / den : ℚ) = x.units / 2 ^ 1074) :
    Extended.ofRatio x.negative num den = .finite x := by
  have hpos : (0 : ℚ) < 2 ^ 1074 := by positivity
  obtain ⟨n, k, hgrid, -, hround⟩ := exists_ofRatio x.negative num hden
  rw [h, div_mul_cancel₀ _ hpos.ne'] at hgrid
  have hdist := hgrid.le_abs_sub (y := x.units) x.representable.1
  rw [Int.cast_natCast, sub_self, abs_zero] at hdist
  have hunits : x.units = n * 2 ^ k := by
    have hzero := sub_eq_zero.1 (abs_nonpos_iff.1 hdist)
    exact_mod_cast hzero
  rw [hround, ← hunits]
  exact dif_pos x.representable

end Binary64

namespace Decimal

open Binary64 (Extended)

theorem nearest_of_toRat_eq {d : Decimal} {x : Binary64} (hsign : d.negative = x.negative)
    (h : d.toRat = x.toRat) : d.nearest = .finite x := by
  rw [nearest_eq_ofRatio, hsign]
  apply Binary64.ofRatio_of_eq d.ratio_pos
  rw [← abs_toRat, h, Binary64.abs_toRat]

theorem toRat_ofBinary64 (x : Binary64) : (ofBinary64 x).toRat = x.toRat := by
  rw [Binary64.toRat_eq, ofBinary64, toRat, zpow_neg, zpow_ofNat]
  -- a literal exponent of this size would be evaluated
  generalize 1074 = e
  have hten : (10 : ℚ) ^ e = 5 ^ e * 2 ^ e := by
    rw [← mul_pow]
    norm_num
  have hpos : (5 : ℚ) ^ e ≠ 0 := by positivity
  rw [Nat.pow_eq, Nat.cast_mul, Nat.cast_pow, Nat.cast_ofNat, hten, ← div_eq_mul_inv,
    mul_comm (5 ^ e : ℚ), mul_div_mul_right _ _ hpos]

/-- The shortest decimal of a double reads as the double. -/
theorem nearest_shortest (x : Binary64) : (shortest x).nearest = .finite x := by
  rw [shortest]
  split
  · rename_i hzero
    have hunits : x.units = 0 := by simpa [Binary64.isZero] using hzero
    apply nearest_of_toRat_eq rfl
    rw [toRat, Nat.cast_zero, zero_mul, mul_zero, Binary64.toRat, Binary64.toUnits, hunits]
    simp
  · dsimp only
    cases hfound : (List.range 17).findSome? _ with
    | none => exact nearest_of_toRat_eq rfl (toRat_ofBinary64 x)
    | some d =>
      obtain ⟨n, -, hn⟩ := List.exists_of_findSome?_eq_some hfound
      simpa using List.find?_some hn

theorem abs_toRat_shortest_lt (x : Binary64) : |(shortest x).toRat| < Binary64.overflow := by
  by_contra hle
  have hinfinity := nearest_eq_infinity (not_lt.1 hle)
  rw [nearest_shortest] at hinfinity
  cases hinfinity

/-- A double is the one of its sign that is nearest to its shortest decimal. -/
theorem isNearest_shortest (x : Binary64) :
    x.negative = (shortest x).negative ∧ x.IsNearest (shortest x).toRat := by
  obtain ⟨y, hy, hnearest⟩ := exists_nearest_eq_finite (abs_toRat_shortest_lt x)
  obtain rfl : x = y := by
    rw [nearest_shortest] at hy
    exact Extended.finite.inj hy
  exact (hnearest x).1 rfl

end Decimal

/-! ### Reading written numbers -/

theorem isBlank_eq_false_of_isNumeralChar {c : Char} (h : isNumeralChar c = true) :
    isBlank c = false := by
  simp only [isNumeralChar, Bool.or_eq_true, beq_iff_eq] at h
  rcases h with (((hdigit | rfl) | rfl) | rfl) | rfl
  · exact Text.isBlank_eq_false_of_isDecimalDigit
      (Numeral.isDigits_of_isDigit (List.forall_mem_singleton.2 hdigit) c List.mem_cons_self)
  all_goals decide

theorem strip_of_isNumeralChar {s : List Char} (h : s.all isNumeralChar = true) : strip s = s := by
  have hblank : ∀ c ∈ s, isBlank c = false := fun c hc =>
    isBlank_eq_false_of_isNumeralChar (List.all_eq_true.1 h c hc)
  have hstripped : IsStripped s s := by
    refine ⟨[], [], by simp, by simp, by simp, fun c hc => ?_, fun c hc => ?_⟩
    · exact hblank c (List.mem_of_head? hc)
    · exact hblank c (List.mem_of_getLast? hc)
  exact hstripped.eq_strip.symm

namespace Number

open Numeral (IsInteger IsDecimal signed digitsValue decimalValue)

/-- The value of a number. -/
def toRat : Number → ℚ
  | int n => n
  | float x => x.toRat

/-- The text of a double is read as the double. -/
theorem ofText_doubleText (x : Binary64) : ofText (doubleText x) = .ok (.float x) := by
  have hlt := Decimal.abs_toRat_shortest_lt x
  obtain ⟨whole, fraction, exponent, hdecimal, hvalue⟩ :=
    Decimal.exists_isDecimal_render doubleFormat (Decimal.shortest x)
  have hstrip : strip (doubleText x).toList = (Decimal.shortest x).render doubleFormat := by
    rw [doubleText, String.toList_ofList]
    exact strip_of_isNumeralChar (Decimal.all_isNumeralChar_render _ _)
  have hread := ofText_of_isDecimal (hstrip ▸ hdecimal) fun negative digits =>
    hstrip ▸ Decimal.not_isInteger_render doubleFormat _ negative digits
  rw [hvalue] at hread
  obtain ⟨y, hy, hnearest⟩ := hread.1 hlt
  rw [hy, (hnearest x).2 (Decimal.isNearest_shortest x)]

/-- The text of a whole number: a minus if it is negative, and the digits of its magnitude. -/
theorem toList_intText (n : ℤ) :
    (intText n).toList = (if n < 0 then ['-'] else []) ++ Nat.toDigits 10 n.natAbs := by
  rw [intText, Int.repr_eq_if]
  by_cases h : 0 ≤ n
  · rw [if_pos h, if_neg (by omega), Nat.toList_repr, List.nil_append]
    congr 1
    omega
  · rw [if_neg h, if_pos (by omega), String.toList_append, Nat.toList_repr]
    congr 2
    omega

theorem isLiteral_intText (n : ℤ) : IsLiteral (intText n).toList := by
  refine ⟨_, .whole (isDigitRun_toDigits n.natAbs), ?_⟩
  rw [toList_intText]
  split
  · exact Or.inr rfl
  · exact Or.inl rfl

theorem isOverlong_int_eq_false_iff {n : ℤ} :
    (int n).isOverlong = false ↔ (Nat.toDigits 10 n.natAbs).length ≤ digitLimit := by
  -- the limit stays a variable, since its power of ten would be evaluated
  have hlimit : ∀ k, 0 < k → (n.natAbs < Nat.pow 10 k ↔ (Nat.toDigits 10 n.natAbs).length ≤ k) :=
    fun k hk => (Nat.length_toDigits_le_iff (by decide) hk).symm
  rw [isOverlong, decide_eq_false_iff_not, Nat.not_le]
  exact hlimit digitLimit (by decide)

/-- The text of a whole number is read as the number unless it has too many digits. -/
theorem ofText_intText {n : ℤ} (h : (int n).isOverlong = false) :
    ofText (intText n) = .ok (.int n) := by
  have hstrip := strip_of_isNumeralChar (all_isNumeralChar_intText n)
  have hrun := isDigitRun_toDigits n.natAbs
  have hinteger : IsInteger (strip (intText n).toList) (decide (n < 0))
      (Nat.toDigits 10 n.natAbs) := by
    rw [hstrip, toList_intText]
    refine ⟨_, ?_, rfl, hrun.1, Numeral.isDigits_of_isDigit hrun.2⟩
    by_cases hn : n < 0 <;> simp [hn, Numeral.signs]
  have hsigned : signed (decide (n < 0)) n.natAbs = n := by
    rw [signed]
    split
    · rename_i hn
      have := of_decide_eq_true hn
      omega
    · rename_i hn
      have := of_decide_eq_false (Bool.not_eq_true _ ▸ hn)
      omega
  rw [ofText_of_isInteger hinteger, if_neg (Nat.not_lt.2 (isOverlong_int_eq_false_iff.1 h)),
    Numeral.digitsValue_toDigits, hsigned]

/-- A number is written as the whole number of its value, if it is one or a double below `10 ^ 16`, or
else as the shortest decimal of its double. -/
theorem literal_cases (n : Number) :
    (∃ k : ℤ, n.literal = intText k ∧ n.toRat = k ∧ (n = int k ∨ k.natAbs < 10 ^ 16)) ∨
      ∃ x, n = float x ∧ n.literal = doubleText x ∧ ∀ k : ℤ, x.toRat = k → 10 ^ 16 ≤ k.natAbs := by
  cases n with
  | int k => exact Or.inl ⟨k, rfl, rfl, Or.inl rfl⟩
  | float x =>
    rw [literal]
    split
    · rename_i h
      exact Or.inl ⟨x.truncate, rfl, Binary64.toRat_of_isIntegral h.1, Or.inr h.2⟩
    · rename_i h
      refine Or.inr ⟨x, rfl, rfl, fun k hk => ?_⟩
      have hintegral := Binary64.isIntegral_of_toRat_eq hk
      have htruncate : x.truncate = k := by
        rw [Binary64.toRat_of_isIntegral hintegral] at hk
        exact_mod_cast hk
      by_contra hlt
      exact h ⟨hintegral, htruncate ▸ not_le.1 hlt⟩

theorem isOverlong_int_of_lt {k : ℤ} (h : k.natAbs < 10 ^ 16) : (int k).isOverlong = false := by
  have hlength := (Nat.length_toDigits_le_iff (by decide) (by decide)).2 h
  exact isOverlong_int_eq_false_iff.2 (hlength.trans (by decide))

/-- A literal is read as a number of the same value, which has the same literal. -/
theorem exists_ofText_literal {n : Number} (h : n.isOverlong = false) :
    ∃ m, ofText n.literal = .ok m ∧ m.toRat = n.toRat ∧ m.isOverlong = false ∧
      m.literal = n.literal := by
  rcases literal_cases n with ⟨k, hliteral, hvalue, hk⟩ | ⟨x, rfl, hliteral, -⟩
  · have hoverlong : (int k).isOverlong = false := by
      rcases hk with rfl | hlt
      · exact h
      · exact isOverlong_int_of_lt hlt
    rw [hliteral]
    exact ⟨int k, ofText_intText hoverlong, hvalue.symm, hoverlong, rfl⟩
  · refine ⟨float x, ?_, rfl, rfl, rfl⟩
    rw [hliteral]
    exact ofText_doubleText x

theorem isLiteral_literal (n : Number) : IsLiteral n.literal.toList := by
  rcases literal_cases n with ⟨k, hliteral, -⟩ | ⟨x, -, hliteral, -⟩
  · rw [hliteral]
    exact isLiteral_intText k
  · rw [hliteral, doubleText, String.toList_ofList]
    exact Decimal.isLiteral_render _ _

/-- Only a negative number has a minus in front. -/
theorem toRat_neg_of_literal {n : Number} {rest : List Char} (h : n.literal.toList = '-' :: rest) :
    n.toRat < 0 := by
  have hhead : ∀ {digits : List Char}, IsMagnitude digits → digits ≠ '-' :: rest := by
    rintro digits hdigits rfl
    exact absurd hdigits.isDigit_head (by decide)
  rcases literal_cases n with ⟨k, hliteral, hvalue, -⟩ | ⟨x, rfl, hliteral, hlarge⟩
  · rw [hliteral, toList_intText] at h
    have hk : k < 0 := by
      by_contra hk
      rw [if_neg hk] at h
      exact hhead (.whole (isDigitRun_toDigits _)) h
    rw [hvalue]
    exact_mod_cast hk
  · rw [hliteral, doubleText, String.toList_ofList] at h
    obtain ⟨magnitude, hmagnitude, heq⟩ :=
      Decimal.exists_render doubleFormat (Decimal.shortest x)
    rw [heq, ← (Decimal.isNearest_shortest x).1] at h
    have hnegative : x.negative = true := by
      by_contra hpositive
      rw [if_neg hpositive] at h
      exact hhead hmagnitude.isMagnitude h
    have hzero : x.toRat ≠ 0 := by
      intro hzero
      have := hlarge 0 (by rw [hzero, Int.cast_zero])
      omega
    have hle : x.toRat ≤ 0 := by
      rw [Binary64.toRat_eq, hnegative]
      exact mul_nonpos_of_nonpos_of_nonneg (by norm_num [signFactor]) (by positivity)
    exact lt_of_le_of_ne hle hzero

/-- A whole value below `10 ^ 16` is written by its digits, and so is every whole number. -/
theorem toList_literal_of_toRat_eq {n : Number} {k : ℤ} (hvalue : n.toRat = k)
    (hk : n = int k ∨ |k| < 10 ^ 16) :
    n.literal.toList = (if k < 0 then ['-'] else []) ++ Nat.toDigits 10 k.natAbs := by
  rcases literal_cases n with ⟨k', hliteral, hvalue', -⟩ | ⟨x, rfl, -, hlarge⟩
  · obtain rfl : k' = k := by
      rw [hvalue'] at hvalue
      exact_mod_cast hvalue
    rw [hliteral, toList_intText]
  · have := hlarge k hvalue
    rcases hk with hk | hk
    · cases hk
    · rw [Int.abs_eq_natAbs] at hk
      omega

end Number

namespace Value

theorem toLiteral_eq_ok_iff {v : Value} {r : String} :
    v.toLiteral = .ok r ↔ ∃ n, v.toNumber = .ok n ∧ n.isOverlong = false ∧ n.literal = r := by
  rw [toLiteral]
  cases v.toNumber with
  | error e => simp [bind, Except.bind]
  | ok n => cases h : n.isOverlong <;> simp [bind, Except.bind, pure, Except.pure, h]

/-- What a value is written as is a literal, and no negative zero or special value.  It is read as a
number of the same value, and is the literal of that number.  A minus stands for a negative value, and a
whole value is written by its digits, below `10 ^ 16` for doubles as for whole numbers. -/
theorem isLiteral_of_toLiteral {v : Value} {r : String} (h : v.toLiteral = .ok r) :
    IsLiteral r.toList ∧ r ∉ ["-0", "nan", "inf", "-inf"] ∧
    ∃ n m, v.toNumber = .ok n ∧ (text r).toNumber = .ok m ∧ m.toRat = n.toRat ∧
      (text r).toLiteral = .ok r ∧ (∀ rest, r.toList = '-' :: rest → n.toRat < 0) ∧
      ∀ k : ℤ, n.toRat = k → (n = .int k ∨ |k| < 10 ^ 16) →
        r.toList = (if k < 0 then ['-'] else []) ++ Nat.toDigits 10 k.natAbs := by
  obtain ⟨n, hn, hoverlong, rfl⟩ := toLiteral_eq_ok_iff.1 h
  obtain ⟨m, hm, hvalue, hoverlong', hliteral⟩ := Number.exists_ofText_literal hoverlong
  have hchars := Number.all_isNumeralChar_literal n
  have hminus : ∀ rest, n.literal.toList = '-' :: rest → n.toRat < 0 :=
    fun rest => Number.toRat_neg_of_literal
  have hzero : n.literal ≠ "-0" := by
    intro heq
    have hneg := hminus ['0'] (by rw [heq]; rfl)
    have hread : Number.ofText "-0" = .ok 0 := by decide
    rw [heq, hread] at hm
    obtain rfl := Except.ok.inj hm
    rw [← hvalue] at hneg
    exact absurd hneg (by simp [Number.toRat])
  refine ⟨Number.isLiteral_literal n, ?_, n, m, hn, hm, hvalue,
    toLiteral_eq_ok_iff.2 ⟨m, hm, hoverlong', hliteral⟩, hminus,
    fun k => Number.toList_literal_of_toRat_eq⟩
  simp only [List.mem_cons, List.not_mem_nil, or_false, not_or]
  refine ⟨hzero, ?_, ?_, ?_⟩ <;> intro heq <;> rw [heq] at hchars <;> exact absurd hchars (by decide)

/-- A small double is written with an exponent of two digits. -/
theorem isLiteral_of_toLiteral_exponent :
    (text "-1e-7").toLiteral = .ok "-1e-07" ∧ IsLiteral "-1e-07".toList := by
  have h : (text "-1e-7").toLiteral = .ok "-1e-07" := by decide +kernel
  exact ⟨h, (isLiteral_of_toLiteral h).1⟩

end Value

end LuauLayout
