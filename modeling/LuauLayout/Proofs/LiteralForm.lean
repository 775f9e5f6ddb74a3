import LuauLayout.Proofs.NumberReading
import LuauLayout.Proofs.NumberText

/-! The form of written numbers.  A literal is a minus that may be left out, and then digits, digits on
both sides of a point, or one digit with an exponent, which a point and digits may precede; all its
digits are ASCII ones.  Whatever its format, a decimal is written as a numeral of its own value that is
no integer numeral. -/

namespace LuauLayout

open Text

/-! ### Digits -/

/-- The text is ASCII digits, at least one. -/
def IsDigitRun (s : List Char) : Prop := s ≠ [] ∧ ∀ c ∈ s, c.isDigit = true

theorem isDigitRun_toDigits (n : ℕ) : IsDigitRun (Nat.toDigits 10 n) :=
  ⟨Nat.toDigits_ne_nil, fun _ hc => Nat.isDigit_of_mem_toDigits (by decide) (by decide) hc⟩

theorem isDigit_of_mem_replicate (n : ℕ) : ∀ c ∈ List.replicate n '0', c.isDigit = true := by
  intro c hc
  obtain rfl := List.eq_of_mem_replicate hc
  rfl

theorem isDigitRun_zero : IsDigitRun ['0'] := ⟨List.cons_ne_nil _ _, by simp⟩

namespace IsDigitRun

variable {digits : List Char}

theorem append {rest : List Char} (h : IsDigitRun digits) (hrest : ∀ c ∈ rest, c.isDigit = true) :
    IsDigitRun (digits ++ rest) := by
  refine ⟨List.append_ne_nil_of_left_ne_nil h.1 _, fun c hc => ?_⟩
  exact (List.mem_append.1 hc).elim (h.2 c) (hrest c)

theorem append_zeros (h : IsDigitRun digits) (n : ℕ) :
    IsDigitRun (digits ++ List.replicate n '0') :=
  h.append (isDigit_of_mem_replicate n)

theorem zeros_append (h : IsDigitRun digits) (n : ℕ) :
    IsDigitRun (List.replicate n '0' ++ digits) := by
  refine ⟨List.append_ne_nil_of_right_ne_nil _ h.1, fun c hc => ?_⟩
  exact (List.mem_append.1 hc).elim (isDigit_of_mem_replicate n c) (h.2 c)

end IsDigitRun

theorem Text.digitValue?_of_isDigit {c : Char} (h : c.isDigit = true) :
    digitValue? c = some (c.toNat - '0'.toNat) := by
  obtain ⟨hlow, hhigh⟩ : '0'.toNat ≤ c.toNat ∧ c.toNat < '0'.toNat + 10 := by
    simp only [Char.isDigit, Bool.and_eq_true, decide_eq_true_eq] at h
    exact ⟨h.1, Nat.lt_succ_of_le h.2⟩
  rw [digitValue?, digitZeros, List.find?_cons_of_pos]
  · rfl
  · simpa using ⟨hlow, hhigh⟩

namespace Numeral

theorem isDigits_of_isDigit {digits : List Char} (h : ∀ c ∈ digits, c.isDigit = true) :
    IsDigits digits := by
  intro c hc
  rw [isDecimalDigit, digitValue?_of_isDigit (h c hc)]
  rfl

theorem digitsValue_eq_ofDigitChars {digits : List Char} (h : ∀ c ∈ digits, c.isDigit = true) :
    digitsValue digits = Nat.ofDigitChars 10 digits 0 := by
  have hfold : ∀ init : ℕ, (digits.filterMap digitValue?).foldl (fun n d => 10 * n + d) init =
      Nat.ofDigitChars 10 digits init := by
    induction digits with
    | nil => exact fun _ => rfl
    | cons c digits ih =>
      intro init
      rw [List.filterMap_cons_some (digitValue?_of_isDigit (h c List.mem_cons_self)),
        List.foldl_cons, Nat.ofDigitChars_cons]
      exact ih (fun d hd => h d (List.mem_cons_of_mem c hd)) _
  rw [← ofDigits_filterMap]
  exact hfold 0

theorem digitsValue_toDigits (n : ℕ) : digitsValue (Nat.toDigits 10 n) = n := by
  rw [digitsValue_eq_ofDigitChars (isDigitRun_toDigits n).2, Nat.ofDigitChars_ten_toDigits]

end Numeral

open Numeral (digitsValue digitsValue_eq_ofDigitChars)

/-- Zeros behind digits are a factor of the value. -/
theorem ofDigitChars_append_zeros (digits : List Char) (n : ℕ) :
    Nat.ofDigitChars 10 (digits ++ List.replicate n '0') 0 =
      Nat.ofDigitChars 10 digits 0 * 10 ^ n := by
  rw [Nat.ofDigitChars_append, Nat.ofDigitChars_replicate_zero, Nat.mul_comm]

/-- Zeros in front of digits do not count. -/
theorem ofDigitChars_zeros_append (n : ℕ) (digits : List Char) :
    Nat.ofDigitChars 10 (List.replicate n '0' ++ digits) 0 = Nat.ofDigitChars 10 digits 0 := by
  rw [Nat.ofDigitChars_append, Nat.ofDigitChars_replicate_zero, Nat.mul_zero]

/-! ### Literals -/

/-- The text is digits, digits on both sides of a point, or a digit with an exponent, between which a
point and more digits may stand. -/
inductive IsMagnitude : List Char → Prop
  | whole {digits : List Char} (h : IsDigitRun digits) : IsMagnitude digits
  | point {digits fraction : List Char} (h : IsDigitRun digits) (hfraction : IsDigitRun fraction) :
    IsMagnitude (digits ++ '.' :: fraction)
  | scientific {first sign : Char} {fraction exponent : List Char} (hfirst : first.isDigit = true)
    (hfraction : fraction = [] ∨ ∃ digits, IsDigitRun digits ∧ fraction = '.' :: digits)
    (hsign : sign = '+' ∨ sign = '-') (hexponent : IsDigitRun exponent) :
    IsMagnitude (first :: (fraction ++ 'e' :: sign :: exponent))

theorem IsMagnitude.isDigit_head {c : Char} {rest : List Char} (h : IsMagnitude (c :: rest)) :
    c.isDigit = true := by
  generalize hs : c :: rest = s at h
  cases h with
  | whole h =>
    subst hs
    exact h.2 c List.mem_cons_self
  | @point digits fraction h _ =>
    obtain ⟨first, digits, rfl⟩ := List.exists_cons_of_ne_nil h.1
    obtain ⟨rfl, -⟩ := List.cons.inj hs
    exact h.2 c List.mem_cons_self
  | scientific hfirst _ _ _ =>
    obtain ⟨rfl, -⟩ := List.cons.inj hs
    exact hfirst

/-- The text is a magnitude, perhaps behind a minus. -/
def IsLiteral (s : List Char) : Prop := ∃ magnitude, IsMagnitude magnitude ∧
  (s = magnitude ∨ s = '-' :: magnitude)

namespace Decimal

open Numeral (IsMantissa IsExponent IsDecimal IsInteger decimalValue signed digitsValue_toDigits
  isDigits_of_isDigit)

variable {digits : List Char}

/-! ### The digits of a decimal -/

/-- The digits of the coefficient are those that count and zeros behind them. -/
theorem exists_toDigits_eq {d : Decimal} (h : d.coefficient ≠ 0) :
    ∃ n, Nat.toDigits 10 d.coefficient = d.significantDigits ++ List.replicate n '0' := by
  have hsplit := List.takeWhile_append_dropWhile (p := (· = '0'))
    (l := (Nat.toDigits 10 d.coefficient).reverse)
  obtain ⟨n, hzeros⟩ : ∃ n, (Nat.toDigits 10 d.coefficient).reverse.takeWhile (· = '0') =
      List.replicate n '0' := by
    refine ⟨_, List.eq_replicate_iff.2 ⟨rfl, fun c hc => ?_⟩⟩
    simpa using List.mem_takeWhile_imp hc
  refine ⟨n, ?_⟩
  rw [hzeros] at hsplit
  rw [significantDigits, if_neg h, ← List.reverse_replicate, ← List.reverse_append, hsplit,
    List.reverse_reverse]

theorem isDigitRun_significantDigits (d : Decimal) : IsDigitRun d.significantDigits := by
  by_cases h : d.coefficient = 0
  · rw [significantDigits, if_pos h]
    exact ⟨List.cons_ne_nil _ _, by simp⟩
  · obtain ⟨n, hn⟩ := exists_toDigits_eq h
    have hrun := isDigitRun_toDigits d.coefficient
    constructor
    · intro hnil
      have hvalue : Nat.ofDigitChars 10 (Nat.toDigits 10 d.coefficient) 0 = 0 := by
        rw [hn, hnil, List.nil_append, Nat.ofDigitChars_replicate_zero, Nat.mul_zero]
      rw [Nat.ofDigitChars_ten_toDigits] at hvalue
      exact h hvalue
    · intro c hc
      exact hrun.2 c (hn ▸ List.mem_append_left _ hc)

/-- The value of a decimal by its digits and the exponent of the first one. -/
theorem coefficient_mul_eq (d : Decimal) :
    (d.coefficient * 10 ^ d.exponent : ℚ) = digitsValue d.significantDigits *
      10 ^ (d.scientificExponent + 1 - d.significantDigits.length) := by
  by_cases h : d.coefficient = 0
  · have hvalue : digitsValue ['0'] = 0 := by decide
    rw [significantDigits, if_pos h, hvalue, h, Nat.cast_zero, zero_mul, zero_mul]
  · obtain ⟨n, hn⟩ := exists_toDigits_eq h
    have hvalue : d.coefficient = digitsValue d.significantDigits * 10 ^ n := by
      rw [digitsValue_eq_ofDigitChars d.isDigitRun_significantDigits.2, ← ofDigitChars_append_zeros,
        ← hn, Nat.ofDigitChars_ten_toDigits]
    have hlength : (length d.coefficient : ℤ) = d.significantDigits.length + n := by
      rw [length, hn, List.length_append, List.length_replicate, Nat.cast_add]
    have hexponent : d.scientificExponent + 1 - d.significantDigits.length = n + d.exponent := by
      rw [scientificExponent, if_neg h, hlength]
      omega
    rw [hexponent, zpow_add₀ (by norm_num), zpow_natCast, ← mul_assoc]
    congr 1
    exact_mod_cast hvalue

/-! ### Magnitudes with a point or an exponent -/

/-- The magnitude has a point or an exponent, and it denotes the value. -/
structure Spells (magnitude : List Char) (value : ℚ) : Prop where
  isMagnitude : IsMagnitude magnitude
  mark : '.' ∈ magnitude ∨ 'e' ∈ magnitude
  denotes : ∃ mantissa whole fraction tail exponent, magnitude = mantissa ++ tail ∧
    IsMantissa mantissa whole fraction ∧ IsExponent tail exponent ∧
    digitsValue (whole ++ fraction) * (10 : ℚ) ^ (exponent - fraction.length : ℤ) = value

/-- Digits are written with a point among them, and with zeros up to it where they do not reach it. -/
theorem exists_positional (h : IsDigitRun digits) (whole : ℤ) :
    ∃ left right before after, IsDigitRun left ∧ IsDigitRun right ∧
      positional digits whole = left ++ '.' :: right ∧
      left ++ right = List.replicate before '0' ++ (digits ++ List.replicate after '0') ∧
      (after - right.length : ℤ) = whole - digits.length := by
  rw [positional]
  split
  · -- a zero before the point, and more zeros behind it
    refine ⟨['0'], List.replicate (-whole).toNat '0' ++ digits, (-whole).toNat + 1, 0,
      isDigitRun_zero, h.zeros_append _, rfl, ?_, ?_⟩
    · rw [List.replicate_succ, List.replicate_zero, List.append_nil]
      rfl
    · rw [List.length_append, List.length_replicate]
      omega
  · rename_i hpos
    dsimp only
    by_cases hshort : digits.length ≤ whole.toNat
    · -- all digits before the point, and a zero behind it
      rw [List.take_of_length_le hshort, List.drop_of_length_le hshort]
      refine ⟨digits ++ List.replicate (whole.toNat - digits.length) '0', ['0'], 0,
        whole.toNat - digits.length + 1, h.append_zeros _, isDigitRun_zero, rfl, ?_, ?_⟩
      · rw [List.replicate_succ', List.append_assoc]
        rfl
      · rw [List.length_singleton]
        omega
    · -- digits on both sides of the point
      have hlength : (digits.take whole.toNat).length = whole.toNat :=
        List.length_take_of_le (by omega)
      have hdrop : digits.drop whole.toNat ≠ [] := by
        rw [Ne, List.drop_eq_nil_iff]
        exact hshort
      have htake : digits.take whole.toNat ≠ [] := List.ne_nil_of_length_pos (by omega)
      rw [hlength, Nat.sub_self, List.replicate_zero, List.append_nil,
        if_neg (by simpa using hdrop)]
      refine ⟨digits.take whole.toNat, digits.drop whole.toNat, 0, 0,
        ⟨htake, fun c hc => h.2 c (List.mem_of_mem_take hc)⟩,
        ⟨hdrop, fun c hc => h.2 c (List.mem_of_mem_drop hc)⟩, rfl, ?_, ?_⟩
      · rw [List.take_append_drop, List.replicate_zero, List.append_nil]
        rfl
      · rw [List.length_drop]
        omega

theorem spells_positional (h : IsDigitRun digits) (whole : ℤ) :
    Spells (positional digits whole) (digitsValue digits * 10 ^ (whole - digits.length)) := by
  obtain ⟨left, right, before, after, hleft, hright, heq, hdigits, hexponent⟩ :=
    exists_positional h whole
  have hvalue : digitsValue (left ++ right) = digitsValue digits * 10 ^ after := by
    rw [digitsValue_eq_ofDigitChars (hleft.append hright.2).2, digitsValue_eq_ofDigitChars h.2,
      hdigits, ofDigitChars_zeros_append, ofDigitChars_append_zeros]
  rw [heq]
  refine ⟨.point hleft hright, Or.inl (by simp), _, left, right, [], 0, (List.append_nil _).symm,
    .point hleft.1 (isDigits_of_isDigit hleft.2) (isDigits_of_isDigit hright.2), .absent, ?_⟩
  rw [hvalue, ← hexponent, Nat.cast_mul, mul_assoc, Nat.cast_pow, Nat.cast_ofNat,
    ← zpow_natCast (10 : ℚ) after, ← zpow_add₀ (by norm_num), zero_sub, ← sub_eq_add_neg]

/-- An exponent is written as a sign and digits of its value. -/
theorem exists_exponentText (width : ℕ) (e : ℤ) :
    ∃ sign digits negative, (sign = '+' ∨ sign = '-') ∧ ([sign], negative) ∈ Numeral.signs ∧
      IsDigitRun digits ∧ exponentText width e = [sign] ++ digits ∧
      signed negative (digitsValue digits) = e := by
  have hrun := isDigitRun_toDigits e.natAbs
  have hvalue : ∀ zeros, digitsValue (List.replicate zeros '0' ++ Nat.toDigits 10 e.natAbs) =
      e.natAbs := by
    intro zeros
    rw [digitsValue_eq_ofDigitChars (hrun.zeros_append zeros).2, ofDigitChars_zeros_append,
      Nat.ofDigitChars_ten_toDigits]
  refine ⟨if e < 0 then '-' else '+', _, decide (e < 0), ?_, ?_,
    hrun.zeros_append _, rfl, ?_⟩
  · split
    · exact Or.inr rfl
    · exact Or.inl rfl
  · by_cases h : e < 0 <;> simp [h, Numeral.signs]
  · rw [hvalue, signed]
    by_cases h : e < 0 <;> simp only [h, decide_true, decide_false, if_true, Bool.false_eq_true,
      if_false] <;> omega

theorem spells_scientific (h : IsDigitRun digits) (width : ℕ) (e : ℤ) :
    Spells (scientific width digits e) (digitsValue digits * 10 ^ (e + 1 - digits.length)) := by
  obtain ⟨first, rest, rfl⟩ := List.exists_cons_of_ne_nil h.1
  obtain ⟨sign, exponent, negative, hsign, hmem, hrun, heq, hvalue⟩ := exists_exponentText width e
  have hfirst : first.isDigit = true := h.2 first List.mem_cons_self
  have hdigit : ∀ c ∈ [first], c.isDigit = true := List.forall_mem_singleton.2 hfirst
  have hexponent : IsExponent ('e' :: ([sign] ++ exponent)) e := by
    have hpresent := IsExponent.present (Or.inl rfl) hmem hrun.1 (isDigits_of_isDigit hrun.2)
    rwa [hvalue] at hpresent
  have hpower : e + 1 - ((first :: rest).length : ℤ) = e - rest.length := by
    rw [List.length_cons]
    omega
  rw [hpower]
  cases rest with
  | nil =>
    have htext : scientific width [first] e = [first] ++ ('e' :: ([sign] ++ exponent)) := by
      rw [← heq]
      rfl
    rw [htext]
    refine ⟨.scientific hfirst (Or.inl rfl) hsign hrun, Or.inr (by simp), [first], [first], [], _, e,
      rfl, .whole (List.cons_ne_nil _ _) (isDigits_of_isDigit hdigit), hexponent, ?_⟩
    rw [List.append_nil]
  | cons second rest =>
    have hrest : IsDigitRun (second :: rest) :=
      ⟨List.cons_ne_nil _ _, fun c hc => h.2 c (List.mem_cons_of_mem _ hc)⟩
    have htext : scientific width (first :: second :: rest) e =
        ([first] ++ '.' :: second :: rest) ++ ('e' :: ([sign] ++ exponent)) := by
      rw [← heq]
      rfl
    rw [htext]
    refine ⟨.scientific hfirst (Or.inr ⟨_, hrest, rfl⟩) hsign hrun, Or.inr (by simp),
      [first] ++ '.' :: second :: rest, [first], second :: rest, _, e, rfl,
      .point (List.cons_ne_nil _ _) (isDigits_of_isDigit hdigit) (isDigits_of_isDigit hrest.2),
      hexponent, rfl⟩

/-! ### Written decimals -/

theorem exists_render (format : DecimalFormat) (d : Decimal) :
    ∃ magnitude, Spells magnitude (d.coefficient * 10 ^ d.exponent) ∧
      d.render format = if d.negative then '-' :: magnitude else magnitude := by
  have hrun := d.isDigitRun_significantDigits
  refine ⟨_, ?_, rfl⟩
  rw [coefficient_mul_eq]
  split
  · exact spells_positional hrun _
  · exact spells_scientific hrun _ _

theorem isLiteral_render (format : DecimalFormat) (d : Decimal) : IsLiteral (d.render format) := by
  obtain ⟨magnitude, h, heq⟩ := exists_render format d
  refine ⟨magnitude, h.isMagnitude, ?_⟩
  rw [heq]
  split
  · exact Or.inr rfl
  · exact Or.inl rfl

/-- A written decimal is a numeral of its value, whatever its format. -/
theorem exists_isDecimal_render (format : DecimalFormat) (d : Decimal) :
    ∃ whole fraction exponent, IsDecimal (d.render format) d.negative whole fraction exponent ∧
      decimalValue d.negative whole fraction exponent = d.toRat := by
  obtain ⟨magnitude, ⟨-, -, mantissa, whole, fraction, tail, exponent, hsplit, hmantissa, htail,
    hvalue⟩, heq⟩ := exists_render format d
  refine ⟨whole, fraction, exponent, ⟨if d.negative then ['-'] else [], mantissa, tail, ?_, ?_,
    hmantissa, htail⟩, ?_⟩
  · cases d.negative <;> simp [Numeral.signs]
  · rw [heq, hsplit]
    cases d.negative <;> rfl
  · rw [decimalValue, hvalue, toRat]

/-- The point or the exponent keeps a written decimal from being an integer numeral. -/
theorem not_isInteger_render (format : DecimalFormat) (d : Decimal) (negative : Bool)
    (digits : List Char) : ¬IsInteger (d.render format) negative digits := by
  rintro ⟨sign, hsign, htext, -, hdigits⟩
  obtain ⟨magnitude, ⟨-, hmark, -⟩, heq⟩ := exists_render format d
  have hmem : ∀ c ∈ magnitude, c ∈ sign ++ digits := by
    intro c hc
    rw [← htext, heq]
    split
    · exact List.mem_cons_of_mem _ hc
    · exact hc
  have hout : ∀ c, c ∈ sign ++ digits → isDecimalDigit c = false → c = '+' ∨ c = '-' := by
    intro c hc hdigit
    rcases List.mem_append.1 hc with hc | hc
    · simp only [Numeral.signs, List.mem_cons, Prod.mk.injEq, List.not_mem_nil, or_false] at hsign
      rcases hsign with ⟨rfl, -⟩ | ⟨rfl, -⟩ | ⟨rfl, -⟩ <;> simp_all
    · rw [hdigits c hc] at hdigit
      cases hdigit
  rcases hmark with hmark | hmark
  · exact absurd (hout _ (hmem _ hmark) (by decide)) (by decide)
  · exact absurd (hout _ (hmem _ hmark) (by decide)) (by decide)

end Decimal

end LuauLayout
