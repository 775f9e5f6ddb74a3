import LuauLayout.Value
import LuauLayout.Proofs.NearestDouble
import LuauLayout.Proofs.NumeralGrammar

/-! Which number a value is read as.  A text without the blanks at its ends is read by the grammar of
numerals: an integer numeral as its whole number, a decimal one as the nearest double or, beyond all
doubles, as zero, and any other text as zero.  Finite doubles are read as they are, and no number is
anything but whole or finite. -/

namespace LuauLayout

open Text

namespace Numeral

/-- The value of the digits in front of and behind a point, with a sign and an exponent. -/
def decimalValue (negative : Bool) (whole fraction : List Char) (exponent : ℤ) : ℚ :=
  signFactor negative * (digitsValue (whole ++ fraction) * 10 ^ (exponent - fraction.length))

theorem IsDecimal.isDigits_fraction {s whole fraction : List Char} {negative : Bool} {exponent : ℤ}
    (h : IsDecimal s negative whole fraction exponent) : IsDigits fraction := by
  obtain ⟨_, _, _, -, -, hmantissa, -⟩ := h
  cases hmantissa with
  | whole _ _ => exact List.forall_mem_nil _
  | point _ _ hfraction => exact hfraction
  | fraction _ hfraction => exact hfraction

theorem toRat_toDecimal {s whole fraction : List Char} {negative : Bool} {exponent : ℤ}
    (h : IsDecimal s negative whole fraction exponent) :
    (decimal negative (whole.filterMap digitValue?) (fraction.filterMap digitValue?)
      exponent).toDecimal.toRat = decimalValue negative whole fraction exponent := by
  rw [toDecimal, Decimal.toRat, decimalValue, ← List.filterMap_append, ofDigits_filterMap,
    length_filterMap_digitValue? h.isDigits_fraction]

end Numeral

namespace Number

open Numeral (IsInteger IsDecimal signed digitsValue decimalValue)

variable {s : String}

/-- A whole number of at most so many digits is read in full. -/
theorem ofText_of_isInteger {negative : Bool} {digits : List Char}
    (h : IsInteger (strip s.toList) negative digits) :
    ofText s = if digitLimit < digits.length then .error (.numeral digits.length)
      else .ok (.int (signed negative (digitsValue digits))) := by
  have hread := Numeral.read?_eq_integer_iff.2 ⟨digits, h, rfl⟩
  have hlength := Numeral.length_filterMap_digitValue? h.isDecimalDigit
  rw [ofText, hread]
  dsimp only
  rw [ofNumeral, ofIntegerDigits, hlength, Numeral.ofDigits_filterMap]
  split <;> rfl

theorem ofText_of_isDecimal {negative : Bool} {whole fraction : List Char} {exponent : ℤ}
    (h : IsDecimal (strip s.toList) negative whole fraction exponent)
    (hinteger : ∀ negative digits, ¬IsInteger (strip s.toList) negative digits) :
    (|decimalValue negative whole fraction exponent| < Binary64.overflow →
      ∃ x, ofText s = .ok (.float x) ∧ ∀ y, y = x ↔ y.negative = negative ∧
        y.IsNearest (decimalValue negative whole fraction exponent)) ∧
    (Binary64.overflow ≤ |decimalValue negative whole fraction exponent| → ofText s = .ok 0) := by
  have hread := Numeral.read?_of_isDecimal h hinteger
  have hvalue := Numeral.toRat_toDecimal h
  rw [ofText, hread]
  dsimp only
  rw [ofNumeral]
  · rw [← hvalue]
    constructor
    · intro hlt
      obtain ⟨x, hx, hnearest⟩ := Decimal.exists_nearest_eq_finite hlt
      exact ⟨x, by rw [hx]; rfl, hnearest⟩
    · intro hle
      rw [Decimal.nearest_eq_infinity hle]
      rfl
  · rintro _ _ ⟨⟩

theorem ofText_of_not_numeral
    (hinteger : ∀ negative digits, ¬IsInteger (strip s.toList) negative digits)
    (hdecimal : ∀ negative whole fraction exponent,
      ¬IsDecimal (strip s.toList) negative whole fraction exponent) : ofText s = .ok 0 := by
  rw [ofText]
  cases hread : Numeral.read? (strip s.toList) with
  | none => rfl
  | some numeral =>
    cases numeral with
    | integer negative values =>
      obtain ⟨digits, h, -⟩ := Numeral.read?_eq_integer_iff.1 hread
      exact absurd h (hinteger negative digits)
    | decimal negative values values' exponent =>
      obtain ⟨whole, fraction, h⟩ := Numeral.isDecimal_of_read? hread
      exact absurd h (hdecimal negative whole fraction exponent)

end Number

theorem Binary64.abs_toRat_lt (x : Binary64) : |x.toRat| < 2 ^ 1024 := by
  have hpos : (0 : ℚ) < 2 ^ 1074 := by positivity
  have hlt := (representable_iff.1 x.representable).2
  have hpow : 2 ^ 53 * 2 ^ 2045 = 2 ^ 1024 * 2 ^ 1074 := by rw [← pow_add, ← pow_add]
  rw [abs_toRat, div_lt_iff₀ hpos]
  rw [hpow] at hlt
  exact_mod_cast hlt

namespace Value

open Numeral (IsInteger IsDecimal signed digitsValue decimalValue)

/-- A text is read by the grammar of numerals once the blanks at its ends are gone: as a whole number of
4300 digits at most, as the nearest double of its sign, or as zero if it is beyond all doubles or no
numeral.  Of the doubles, finite ones are read as they are and the others as zero, and no double that
is read is as large as `2 ^ 1024`. -/
theorem toNumber_text (s : String) :
    (∃ t, (∀ t', IsStripped s.toList t' ↔ t' = t) ∧
      (∀ negative digits, IsInteger t negative digits →
        (digits.length ≤ 4300 →
          (text s).toNumber = .ok (.int (signed negative (digitsValue digits)))) ∧
        (4300 < digits.length → (text s).toNumber = .error (.numeral digits.length))) ∧
      ((∀ negative digits, ¬IsInteger t negative digits) →
        (∀ negative whole fraction exponent, IsDecimal t negative whole fraction exponent →
          let q := decimalValue negative whole fraction exponent
          (|q| < 2 ^ 1024 - 2 ^ 970 →
            ∃ x, (text s).toNumber = .ok (.float x) ∧
              ∀ y, y = x ↔ y.negative = negative ∧ y.IsNearest q) ∧
          (2 ^ 1024 - 2 ^ 970 ≤ |q| → (text s).toNumber = .ok 0)) ∧
        ((∀ negative whole fraction exponent, ¬IsDecimal t negative whole fraction exponent) →
          (text s).toNumber = .ok 0))) ∧
    (∀ x, (float (.finite x)).toNumber = .ok (.float x)) ∧
    (∀ x, (∀ y, x ≠ .finite y) → (float x).toNumber = .ok 0) ∧
    ∀ v x, toNumber v = .ok (.float x) → |x.toRat| < 2 ^ 1024 := by
  refine ⟨⟨strip s.toList, fun t' => ⟨fun h => h.eq_strip, ?_⟩, ?_, ?_⟩, fun x => rfl, ?_,
    fun v x _ => x.abs_toRat_lt⟩
  · rintro rfl
    exact isStripped_strip s.toList
  · intro negative digits h
    have hresult : (text s).toNumber = _ := Number.ofText_of_isInteger h
    rw [hresult]
    exact ⟨fun hle => if_neg (not_lt.2 hle), fun hlt => if_pos hlt⟩
  · intro hinteger
    constructor
    · intro negative whole fraction exponent h
      exact Number.ofText_of_isDecimal h hinteger
    · intro hdecimal
      exact Number.ofText_of_not_numeral hinteger hdecimal
  · intro x hx
    cases x with
    | finite y => exact absurd rfl (hx y)
    | infinity negative => rfl
    | nan => rfl

/-- A decimal numeral of mixed digits between blanks is read as the double nearest to its value. -/
theorem toNumber_text_mixed :
    let s := " -٣.5e1\n"
    let t := ['-', '٣', '.', '5', 'e', '1']
    IsStripped s.toList t ∧ (∀ negative digits, ¬IsInteger t negative digits) ∧
      IsDecimal t true ['٣'] ['5'] 1 ∧
      ∃ x, (text s).toNumber = .ok (.float x) ∧ ∀ y, y = x ↔ y.negative = true ∧ y.IsNearest (-35) := by
  intro s t
  have hstripped : IsStripped s.toList t := by
    refine ⟨[' '], ['\n'], by decide, List.forall_mem_singleton.2 (by decide),
      List.forall_mem_singleton.2 (by decide), ?_, ?_⟩
    · rintro _ ⟨⟩
      decide
    · rintro _ ⟨⟩
      decide
  have hdecimal : IsDecimal t true ['٣'] ['5'] 1 := by
    have hmantissa : Numeral.IsMantissa (['٣'] ++ '.' :: ['5']) ['٣'] ['5'] :=
      .point (by decide) (by decide) (by decide)
    have hexponent : Numeral.IsExponent ('e' :: ([] ++ ['1'])) (signed false (digitsValue ['1'])) :=
      .present (Or.inl rfl) (by decide) (by decide) (by decide)
    exact ⟨['-'], _, _, by decide, rfl, hmantissa, hexponent⟩
  have hinteger : ∀ negative digits, ¬IsInteger t negative digits := by
    intro negative digits h
    have hread : Numeral.read? t = some (.decimal true [3] [5] 1) := by decide
    rw [Numeral.read?_eq_integer_iff.2 ⟨digits, h, rfl⟩] at hread
    cases hread
  have hvalue : decimalValue true ['٣'] ['5'] 1 = -35 := by
    have hdigits : digitsValue (['٣'] ++ ['5']) = 35 := by decide
    rw [decimalValue, hdigits, signFactor]
    norm_num
  obtain ⟨⟨t', hunique, -, hread⟩, -⟩ := toNumber_text s
  obtain rfl : t = t' := (hunique t).1 hstripped
  have hresult := ((hread hinteger).1 true ['٣'] ['5'] 1 hdecimal).1
  rw [hvalue] at hresult
  refine ⟨hstripped, hinteger, hdecimal, hresult ?_⟩
  have hbound : (35 : ℚ) < 2 ^ 1024 - 2 ^ 970 := by
    have hpow : 35 + 2 ^ 970 < 2 ^ 1024 := by decide +kernel
    exact lt_sub_iff_add_lt.2 (by exact_mod_cast hpow)
  rwa [abs_neg, abs_of_pos (by norm_num)]

end Value

end LuauLayout
