import LuauLayout.Number

/-! The characters of written numbers: digits, a sign, a point and the letter of an exponent. -/

namespace LuauLayout

def isNumeralChar (c : Char) : Bool :=
  c.isDigit || c == '-' || c == '+' || c == '.' || c == 'e'

theorem isNumeralChar_of_isDigit {c : Char} (h : c.isDigit = true) : isNumeralChar c = true := by
  simp [isNumeralChar, h]

theorem all_isNumeralChar_toDigits (n : Nat) : (Nat.toDigits 10 n).all isNumeralChar = true := by
  rw [List.all_eq_true]
  intro c hc
  exact isNumeralChar_of_isDigit (Nat.isDigit_of_mem_toDigits (by decide) (by decide) hc)

namespace Decimal

theorem all_isNumeralChar_significantDigits (d : Decimal) :
    d.significantDigits.all isNumeralChar = true := by
  rw [significantDigits]
  split
  · decide
  · have hall := List.all_eq_true.1 (all_isNumeralChar_toDigits d.coefficient)
    rw [List.all_eq_true]
    intro c hc
    have hmem := (List.dropWhile_suffix _).mem (List.mem_reverse.1 hc)
    exact hall c (List.mem_reverse.1 hmem)

theorem all_isNumeralChar_positional {digits : List Char} (h : digits.all isNumeralChar = true)
    (whole : Int) : (positional digits whole).all isNumeralChar = true := by
  have hpart : ∀ part : List Char, part ⊆ digits → part.all isNumeralChar = true := by
    intro part hsub
    rw [List.all_eq_true] at h ⊢
    exact fun c hc => h c (hsub hc)
  have hpoint : isNumeralChar '.' = true ∧ isNumeralChar '0' = true := by decide
  rw [positional]
  split
  · simp [h, hpoint]
  · simp only
    split
    · simp [hpart _ (List.take_subset _ _), hpoint]
    · simp [hpart _ (List.take_subset _ _), hpart _ (List.drop_subset _ _), hpoint]

theorem all_isNumeralChar_exponentText (width : Nat) (e : Int) :
    (exponentText width e).all isNumeralChar = true := by
  have hsign : isNumeralChar '-' = true ∧ isNumeralChar '+' = true ∧ isNumeralChar '0' = true := by
    decide
  rw [exponentText]
  split <;> simp [all_isNumeralChar_toDigits, hsign]

theorem all_isNumeralChar_scientific {digits : List Char} (h : digits.all isNumeralChar = true)
    (width : Nat) (e : Int) : (scientific width digits e).all isNumeralChar = true := by
  have hmarks : isNumeralChar '.' = true ∧ isNumeralChar 'e' = true := by decide
  unfold scientific
  split
  · simp only [List.all_cons, Bool.and_eq_true] at h
    simp [all_isNumeralChar_exponentText, h, hmarks]
  · simp [all_isNumeralChar_exponentText, h, hmarks]

theorem all_isNumeralChar_render (format : DecimalFormat) (d : Decimal) :
    (d.render format).all isNumeralChar = true := by
  have hdigits := d.all_isNumeralChar_significantDigits
  have hmagnitude : (if format.leastPositional ≤ d.scientificExponent ∧
      d.scientificExponent < format.leastScientific then
        positional d.significantDigits (d.scientificExponent + 1)
      else scientific format.exponentWidth d.significantDigits d.scientificExponent).all
        isNumeralChar = true := by
    split
    · exact all_isNumeralChar_positional hdigits _
    · exact all_isNumeralChar_scientific hdigits _ _
  rw [render]
  split
  · rw [List.all_cons, hmagnitude]
    decide
  · exact hmagnitude

end Decimal

namespace Number

theorem all_isNumeralChar_intText (n : Int) : (intText n).toList.all isNumeralChar = true := by
  have hsign : isNumeralChar '-' = true := by decide
  rw [intText, Int.repr_eq_if]
  split
  · rw [Nat.toList_repr]
    exact all_isNumeralChar_toDigits _
  · simp [all_isNumeralChar_toDigits, hsign]

theorem all_isNumeralChar_literal (n : Number) : n.literal.toList.all isNumeralChar = true := by
  cases n with
  | int n => exact all_isNumeralChar_intText n
  | float x =>
    rw [literal]
    split
    · exact all_isNumeralChar_intText _
    · rw [doubleText, String.toList_ofList]
      exact Decimal.all_isNumeralChar_render _ _

end Number

end LuauLayout
