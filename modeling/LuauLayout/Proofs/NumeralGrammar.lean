import LuauLayout.Proofs.NumeralText
import Mathlib.Data.Nat.Digits.Defs

/-! The grammar of numerals, apart from how they are read: a sign that may be left out, then digits with
or without a point, then an exponent that may be left out.  A text is read as a decimal numeral
exactly if it is one by the grammar and is no integer numeral. -/

namespace LuauLayout

open Text

namespace Numeral

/-! ### The grammar -/

def IsDigits (s : List Char) : Prop := ∀ c ∈ s, isDecimalDigit c = true

instance (s : List Char) : Decidable (IsDigits s) :=
  List.decidableBAll (isDecimalDigit · = true) s

/-- The number that digits, of whatever script each of them is, denote in base ten. -/
def digitsValue (digits : List Char) : Nat :=
  Nat.ofDigits 10 (digits.filterMap digitValue?).reverse

def signed (negative : Bool) (n : Nat) : Int := if negative then -(n : Int) else n

/-- The text is digits, with a point behind them and more digits behind it if any, or a point and
digits. -/
inductive IsMantissa : List Char → List Char → List Char → Prop
  | whole {digits : List Char} (hne : digits ≠ []) (hdigits : IsDigits digits) :
      IsMantissa digits digits []
  | point {digits fraction : List Char} (hne : digits ≠ []) (hdigits : IsDigits digits)
      (hfraction : IsDigits fraction) : IsMantissa (digits ++ '.' :: fraction) digits fraction
  | fraction {fraction : List Char} (hne : fraction ≠ []) (hfraction : IsDigits fraction) :
      IsMantissa ('.' :: fraction) [] fraction

/-- The text is the exponent of a numeral, or is empty, which counts as zero. -/
inductive IsExponent : List Char → Int → Prop
  | absent : IsExponent [] 0
  | present {mark : Char} {sign digits : List Char} {negative : Bool}
      (hmark : mark = 'e' ∨ mark = 'E') (hsign : (sign, negative) ∈ signs) (hne : digits ≠ [])
      (hdigits : IsDigits digits) :
      IsExponent (mark :: (sign ++ digits)) (signed negative (digitsValue digits))

/-- The text is a sign, the digits in front of and behind a point, and an exponent. -/
def IsDecimal (s : List Char) (negative : Bool) (whole fraction : List Char) (exponent : Int) :
    Prop :=
  ∃ sign mantissa tail, (sign, negative) ∈ signs ∧ s = sign ++ (mantissa ++ tail) ∧
    IsMantissa mantissa whole fraction ∧ IsExponent tail exponent

/-! ### Reading digits -/

theorem ofDigits_eq (values : List Nat) : ofDigits values = Nat.ofDigits 10 values.reverse := by
  rw [Nat.ofDigits_eq_foldr, List.foldr_reverse, ofDigits]
  simp only [Nat.cast_id, Nat.add_comm]

theorem ofDigits_filterMap (digits : List Char) :
    ofDigits (digits.filterMap digitValue?) = digitsValue digits := ofDigits_eq _

theorem filterMap_digitValue?_ne_nil {digits : List Char} (hne : digits ≠ [])
    (hdigits : IsDigits digits) : digits.filterMap digitValue? ≠ [] := by
  intro hnil
  apply hne
  rw [← List.length_eq_zero_iff, ← length_filterMap_digitValue? hdigits, hnil, List.length_nil]

theorem readDigits_append {digits rest : List Char} (hdigits : IsDigits digits)
    (hrest : ∀ c ∈ rest.head?, isDecimalDigit c = false) :
    readDigits (digits ++ rest) = (digits.filterMap digitValue?, rest) := by
  have hstop : rest.takeWhile isDecimalDigit = [] ∧ rest.dropWhile isDecimalDigit = rest := by
    cases rest with
    | nil => exact ⟨rfl, rfl⟩
    | cons c rest =>
      have hc : ¬isDecimalDigit c = true := by simp [hrest c rfl]
      exact ⟨List.takeWhile_cons_of_neg hc, List.dropWhile_cons_of_neg hc⟩
  rw [readDigits, List.takeWhile_append_of_pos hdigits, List.dropWhile_append_of_pos hdigits,
    hstop.1, hstop.2, List.append_nil]

theorem readDigits_of_isDigits {digits : List Char} (hdigits : IsDigits digits) :
    readDigits digits = (digits.filterMap digitValue?, []) :=
  readDigits_eq_nil_iff.2 ⟨hdigits, rfl⟩

/-- What is read as digits stands in front of the rest. -/
theorem exists_of_readDigits {s rest : List Char} {values : List Nat}
    (h : readDigits s = (values, rest)) :
    ∃ digits, IsDigits digits ∧ s = digits ++ rest ∧ digits.filterMap digitValue? = values := by
  obtain ⟨rfl, rfl⟩ := Prod.mk.inj h
  exact ⟨s.takeWhile isDecimalDigit, fun c hc => List.mem_takeWhile_imp hc,
    List.takeWhile_append_dropWhile.symm, rfl⟩

/-! ### Reading exponents -/

theorem readExponent?_eq_some_iff {s : List Char} {exponent : Int} :
    readExponent? s = some exponent ↔ IsExponent s exponent := by
  constructor
  · intro h
    cases s with
    | nil =>
      obtain rfl : 0 = exponent := Option.some.inj h
      exact .absent
    | cons mark rest =>
      rw [readExponent?] at h
      split at h
      · rename_i hmark
        obtain ⟨sign, hsign, hrest⟩ := exists_sign rest
        dsimp only at h
        split at h
        · rename_i hread
          obtain ⟨hdigits, hvalues⟩ := readDigits_eq_nil_iff.1 hread
          rw [← hvalues, ofDigits_filterMap] at h
          obtain rfl := Option.some.inj h
          have hne : (readSign rest).2 ≠ [] := by
            intro hnil
            rw [hnil] at hvalues
            cases hvalues
          have hpresent := IsExponent.present hmark hsign hne hdigits
          rwa [← hrest] at hpresent
        · cases h
      · cases h
  · intro h
    cases h with
    | absent => rfl
    | @present _ _ digits _ hmark hsign hne hdigits =>
      obtain ⟨value, values, hvalues⟩ :=
        List.exists_cons_of_ne_nil (filterMap_digitValue?_ne_nil hne hdigits)
      have hread := readDigits_of_isDigits hdigits
      have hvalue := ofDigits_filterMap digits
      rw [hvalues] at hread hvalue
      rw [readExponent?, if_pos hmark, readSign_append_digits hsign hdigits]
      dsimp only
      rw [hread]
      dsimp only
      rw [hvalue]
      rfl

/-! ### Reading decimals -/

/-- What stands behind a mantissa does not go on with digits. -/
theorem IsExponent.isDecimalDigit_head {tail : List Char} {exponent : Int}
    (h : IsExponent tail exponent) : ∀ c ∈ tail.head?, isDecimalDigit c = false := by
  cases h with
  | absent => simp
  | present hmark _ _ _ =>
    rintro _ ⟨⟩
    rcases hmark with rfl | rfl <;> decide

theorem IsMantissa.ne_sign_head {mantissa whole fraction : List Char}
    (h : IsMantissa mantissa whole fraction) (tail : List Char) :
    ∀ c ∈ (mantissa ++ tail).head?, c ≠ '+' ∧ c ≠ '-' := by
  have hdigits : ∀ {digits rest : List Char}, digits ≠ [] → IsDigits digits →
      ∀ c ∈ (digits ++ rest).head?, c ≠ '+' ∧ c ≠ '-' := by
    intro digits rest hne hdigits c hc
    obtain ⟨digit, digits, rfl⟩ := List.exists_cons_of_ne_nil hne
    obtain rfl : digit = c := Option.some.inj hc
    exact ne_sign_of_isDecimalDigit (hdigits digit List.mem_cons_self)
  cases h with
  | whole hne hwhole => exact hdigits hne hwhole
  | point hne hwhole _ =>
    rw [List.append_assoc]
    exact hdigits hne hwhole
  | fraction _ _ =>
    rintro _ ⟨⟩
    decide

/-- A decimal numeral without a point and an exponent is an integer numeral. -/
theorem read?_of_isDecimal {s whole fraction : List Char} {negative : Bool} {exponent : Int}
    (h : IsDecimal s negative whole fraction exponent)
    (hinteger : ∀ negative digits, ¬IsInteger s negative digits) :
    read? s = some (decimal negative (whole.filterMap digitValue?)
      (fraction.filterMap digitValue?) exponent) := by
  obtain ⟨sign, mantissa, tail, hsign, rfl, hmantissa, htail⟩ := h
  have hexponent := readExponent?_eq_some_iff.2 htail
  have hstop := htail.isDecimalDigit_head
  rw [read?, readSign_append hsign (hmantissa.ne_sign_head tail)]
  dsimp only
  cases hmantissa with
  | whole hne hwhole =>
    cases htail with
    | absent =>
      refine absurd ?_ (hinteger negative whole)
      exact ⟨sign, hsign, by rw [List.append_nil], hne, hwhole⟩
    | present hmark _ _ _ =>
      obtain ⟨value, values, hvalues⟩ :=
        List.exists_cons_of_ne_nil (filterMap_digitValue?_ne_nil hne hwhole)
      rw [readDigits_append hwhole hstop, hvalues]
      rcases hmark with rfl | rfl
      · exact congrArg (Option.map _) hexponent
      · exact congrArg (Option.map _) hexponent
  | point hne hwhole hfraction =>
    obtain ⟨value, values, hvalues⟩ :=
      List.exists_cons_of_ne_nil (filterMap_digitValue?_ne_nil hne hwhole)
    have hpoint : ∀ c ∈ ('.' :: (fraction ++ tail)).head?, isDecimalDigit c = false := by
      rintro _ ⟨⟩
      decide
    rw [List.append_assoc, List.cons_append, readDigits_append hwhole hpoint, hvalues]
    show (readExponent? (readDigits (fraction ++ tail)).2).map
      (decimal negative (value :: values) (readDigits (fraction ++ tail)).1) = _
    rw [readDigits_append hfraction hstop]
    exact congrArg (Option.map _) hexponent
  | fraction hne hfraction =>
    have hpoint : readDigits ('.' :: (fraction ++ tail)) = ([], '.' :: (fraction ++ tail)) := rfl
    have hvalues := filterMap_digitValue?_ne_nil hne hfraction
    rw [List.cons_append, hpoint]
    show (if (readDigits (fraction ++ tail)).1.isEmpty then none
      else (readExponent? (readDigits (fraction ++ tail)).2).map
        (decimal negative [] (readDigits (fraction ++ tail)).1)) = _
    rw [readDigits_append hfraction hstop, if_neg (by simpa using hvalues)]
    exact congrArg (Option.map _) hexponent

theorem isExponent_of_map {tail : List Char} {isMinus negative : Bool}
    {whole fraction values values' : List Nat} {exponent : Int}
    (h : (readExponent? tail).map (decimal isMinus whole fraction) =
      some (decimal negative values values' exponent)) :
    isMinus = negative ∧ IsExponent tail exponent := by
  obtain ⟨e, he, heq⟩ := Option.map_eq_some_iff.1 h
  obtain ⟨hnegative, -, -, rfl⟩ := Numeral.decimal.inj heq
  exact ⟨hnegative, readExponent?_eq_some_iff.1 he⟩

theorem isDecimal_of_read? {s : List Char} {negative : Bool} {values values' : List Nat}
    {exponent : Int} (h : read? s = some (decimal negative values values' exponent)) :
    ∃ whole fraction, IsDecimal s negative whole fraction exponent := by
  obtain ⟨sign, hsign, hs⟩ := exists_sign s
  have hsplit : ∀ body : List Char, ∃ digits, IsDigits digits ∧ body = digits ++ (readDigits body).2 ∧
      digits.filterMap digitValue? = (readDigits body).1 := fun body => exists_of_readDigits rfl
  have hmake : ∀ {mantissa tail whole fraction : List Char}, (readSign s).2 = mantissa ++ tail →
      IsMantissa mantissa whole fraction → (readSign s).1 = negative ∧ IsExponent tail exponent →
      ∃ whole fraction, IsDecimal s negative whole fraction exponent := by
    intro mantissa tail whole fraction hbody hmantissa hexponent
    exact ⟨whole, fraction, sign, mantissa, tail, hexponent.1 ▸ hsign, hbody ▸ hs, hmantissa,
      hexponent.2⟩
  -- the reader goes by the digits in front and by what stands behind them: a point without digits, no
  -- digits, digits alone, digits and a point, digits and an exponent
  rw [read?] at h
  dsimp only at h
  split at h
  · rename_i rest hread
    obtain ⟨digits, hdigits, hbody, hvalues⟩ := exists_of_readDigits hread
    obtain ⟨fraction, hfraction, hrest, hvalues'⟩ := hsplit rest
    split at h
    · cases h
    · rename_i hsome
      obtain rfl : digits = [] := by
        by_contra hne
        exact filterMap_digitValue?_ne_nil hne hdigits hvalues
      have hne : fraction ≠ [] := by
        rintro rfl
        rw [← hvalues'] at hsome
        exact hsome rfl
      rw [List.nil_append, hrest, ← List.cons_append] at hbody
      exact hmake hbody (.fraction hne hfraction) (isExponent_of_map h)
  · cases h
  · cases h
  · rename_i rest hne hread
    obtain ⟨digits, hdigits, hbody, hvalues⟩ := exists_of_readDigits hread
    obtain ⟨fraction, hfraction, hrest, -⟩ := hsplit rest
    have hdigits_ne : digits ≠ [] := by
      rintro rfl
      exact hne hvalues.symm
    rw [hrest, ← List.cons_append, ← List.append_assoc] at hbody
    exact hmake hbody (.point hdigits_ne hdigits hfraction) (isExponent_of_map h)
  · rename_i hne _ _ hread
    obtain ⟨digits, hdigits, hbody, hvalues⟩ := exists_of_readDigits hread
    have hdigits_ne : digits ≠ [] := by
      rintro rfl
      exact hne hvalues.symm
    exact hmake hbody (.whole hdigits_ne hdigits) (isExponent_of_map h)

end Numeral

end LuauLayout
