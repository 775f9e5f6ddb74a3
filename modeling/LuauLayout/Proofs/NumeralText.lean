import LuauLayout.Number
import Mathlib.Data.List.TakeWhile

/-! Texts that stand for whole numbers.  An integer numeral is an optional sign and digits, between
blanks that do not count; a text cannot be read as a number exactly if it is one with more digits
than the limit. -/

namespace LuauLayout

open Text

/-! ### Blanks at the ends of a text -/

namespace Text

/-- No blank character lies between two bounds that keep clear of the ranges of blanks. -/
theorem isBlank_eq_false_of_bounds {c : Char} {low high : ℕ}
    (hapart : ∀ r ∈ blankRanges, r.2 < low ∨ high < r.1) (hlow : low ≤ c.toNat)
    (hhigh : c.toNat ≤ high) : isBlank c = false := by
  rw [isBlank, inRanges, List.any_eq_false]
  intro r hr
  have := hapart r hr
  simp only [Bool.and_eq_true, decide_eq_true_eq]
  omega

theorem isBlank_eq_false_of_isDecimalDigit {c : Char} (h : isDecimalDigit c = true) :
    isBlank c = false := by
  have hapart : ∀ z ∈ digitZeros, ∀ r ∈ blankRanges, r.2 < z ∨ z + 9 < r.1 := by decide
  obtain ⟨d, hd⟩ := Option.isSome_iff_exists.1 h
  obtain ⟨z, hfind, -⟩ := Option.map_eq_some_iff.1 hd
  have hz := List.find?_some hfind
  simp only [Bool.and_eq_true, decide_eq_true_eq] at hz
  exact isBlank_eq_false_of_bounds (hapart z (List.mem_of_find?_eq_some hfind)) hz.1 (by omega)

/-- The second text is the first without the blanks at its ends. -/
def IsStripped (s t : List Char) : Prop :=
  ∃ before after, s = before ++ t ++ after ∧ (∀ c ∈ before, isBlank c = true) ∧
    (∀ c ∈ after, isBlank c = true) ∧ (∀ c ∈ t.head?, isBlank c = false) ∧
    ∀ c ∈ t.getLast?, isBlank c = false

theorem isBlank_head_dropWhile (s : List Char) :
    ∀ c ∈ (s.dropWhile isBlank).head?, isBlank c = false := by
  intro c hc
  have hhead := List.head?_dropWhile_not isBlank s
  rwa [Option.mem_def.1 hc] at hhead

theorem dropWhile_isBlank_of_head {s : List Char} (h : ∀ c ∈ s.head?, isBlank c = false) :
    s.dropWhile isBlank = s := by
  cases s with
  | nil => rfl
  | cons c rest => exact List.dropWhile_cons_of_neg (by simp [h c rfl])

theorem isStripped_strip (s : List Char) : IsStripped s (strip s) := by
  have hfront := List.takeWhile_append_dropWhile (p := isBlank) (l := s)
  have hback := List.takeWhile_append_dropWhile (p := isBlank)
    (l := (s.dropWhile isBlank).reverse)
  have hsplit : s.dropWhile isBlank =
      strip s ++ ((s.dropWhile isBlank).reverse.takeWhile isBlank).reverse := by
    rw [strip, ← List.reverse_append, hback, List.reverse_reverse]
  refine ⟨s.takeWhile isBlank, ((s.dropWhile isBlank).reverse.takeWhile isBlank).reverse, ?_,
    fun c hc => List.mem_takeWhile_imp hc,
    fun c hc => List.mem_takeWhile_imp (List.mem_reverse.1 hc), fun c hc => ?_, fun c hc => ?_⟩
  · rw [List.append_assoc, ← hsplit, hfront]
  · apply isBlank_head_dropWhile s
    rw [hsplit, List.head?_append, Option.mem_def.1 hc]
    rfl
  · rw [strip, List.getLast?_reverse] at hc
    exact isBlank_head_dropWhile _ c hc

theorem IsStripped.eq_strip {s t : List Char} (h : IsStripped s t) : t = strip s := by
  obtain ⟨before, after, rfl, hbefore, hafter, hhead, hlast⟩ := h
  have hreverse : ∀ c ∈ t.reverse.head?, isBlank c = false := by
    rwa [List.head?_reverse]
  rw [strip, List.append_assoc, List.dropWhile_append_of_pos hbefore]
  cases t with
  | nil =>
    have hnil : after.dropWhile isBlank = [] := List.dropWhile_eq_nil_iff.2 hafter
    rw [List.nil_append, hnil]
    rfl
  | cons c rest =>
    have hfront : (c :: rest ++ after).dropWhile isBlank = c :: rest ++ after :=
      dropWhile_isBlank_of_head hhead
    rw [hfront, List.reverse_append,
      List.dropWhile_append_of_pos fun c hc => hafter c (List.mem_reverse.1 hc),
      dropWhile_isBlank_of_head hreverse, List.reverse_reverse]

end Text

/-! ### Integer numerals -/

namespace Numeral

/-- A sign that may stand in front of digits, and whether it is a minus. -/
def signs : List (List Char × Bool) := [([], false), (['+'], false), (['-'], true)]

/-- The text is a sign and digits, and nothing else. -/
def IsInteger (s : List Char) (negative : Bool) (digits : List Char) : Prop :=
  ∃ sign, (sign, negative) ∈ signs ∧ s = sign ++ digits ∧ digits ≠ [] ∧
    ∀ c ∈ digits, isDecimalDigit c = true

theorem isBlank_eq_false_of_mem_signs {sign : List Char} {negative : Bool}
    (h : (sign, negative) ∈ signs) : ∀ c ∈ sign, isBlank c = false := by
  simp only [signs, List.mem_cons, Prod.mk.injEq, List.not_mem_nil, or_false] at h
  rcases h with ⟨rfl, -⟩ | ⟨rfl, -⟩ | ⟨rfl, -⟩
  · exact List.forall_mem_nil _
  · exact List.forall_mem_singleton.2 (by decide)
  · exact List.forall_mem_singleton.2 (by decide)

namespace IsInteger

variable {s digits : List Char} {negative : Bool}

theorem isDecimalDigit (h : IsInteger s negative digits) :
    ∀ c ∈ digits, isDecimalDigit c = true := by
  obtain ⟨sign, -, -, -, hdigits⟩ := h
  exact hdigits

theorem ne_nil (h : IsInteger s negative digits) : s ≠ [] := by
  obtain ⟨sign, -, rfl, hne, -⟩ := h
  exact List.append_ne_nil_of_right_ne_nil _ hne

theorem isBlank_eq_false (h : IsInteger s negative digits) : ∀ c ∈ s, isBlank c = false := by
  obtain ⟨sign, hsign, rfl, -, hdigits⟩ := h
  intro c hc
  rcases List.mem_append.1 hc with hc | hc
  · exact isBlank_eq_false_of_mem_signs hsign c hc
  · exact isBlank_eq_false_of_isDecimalDigit (hdigits c hc)

theorem isStripped_append (h : IsInteger s negative digits) {text before after : List Char}
    (htext : text = before ++ s ++ after) (hbefore : ∀ c ∈ before, isBlank c = true)
    (hafter : ∀ c ∈ after, isBlank c = true) : IsStripped text s :=
  ⟨before, after, htext, hbefore, hafter,
    fun c hc => h.isBlank_eq_false c (List.mem_of_head? hc),
    fun c hc => h.isBlank_eq_false c (List.mem_of_getLast? hc)⟩

end IsInteger

theorem exists_sign (s : List Char) :
    ∃ sign, (sign, (readSign s).1) ∈ signs ∧ s = sign ++ (readSign s).2 := by
  rw [readSign.eq_def]
  split
  · exact ⟨['+'], by simp [signs], rfl⟩
  · exact ⟨['-'], by simp [signs], rfl⟩
  · exact ⟨[], by simp [signs], rfl⟩

/-- The body behind a sign may be anything that does not look like one more sign. -/
theorem readSign_append {sign body : List Char} {negative : Bool} (h : (sign, negative) ∈ signs)
    (hbody : ∀ c ∈ body.head?, c ≠ '+' ∧ c ≠ '-') : readSign (sign ++ body) = (negative, body) := by
  simp only [signs, List.mem_cons, Prod.mk.injEq, List.not_mem_nil, or_false] at h
  rcases h with ⟨rfl, rfl⟩ | ⟨rfl, rfl⟩ | ⟨rfl, rfl⟩
  · rw [List.nil_append, readSign.eq_def]
    split
    · exact absurd rfl (hbody '+' rfl).1
    · exact absurd rfl (hbody '-' rfl).2
    · rfl
  · rfl
  · rfl

theorem ne_sign_of_isDecimalDigit {c : Char} (h : isDecimalDigit c = true) : c ≠ '+' ∧ c ≠ '-' := by
  constructor
  · rintro rfl
    exact absurd h (by decide)
  · rintro rfl
    exact absurd h (by decide)

theorem readSign_append_digits {sign digits : List Char} {negative : Bool}
    (h : (sign, negative) ∈ signs) (hdigits : ∀ c ∈ digits, isDecimalDigit c = true) :
    readSign (sign ++ digits) = (negative, digits) :=
  readSign_append h fun c hc => ne_sign_of_isDecimalDigit (hdigits c (List.mem_of_head? hc))

theorem length_filterMap_digitValue? {digits : List Char}
    (h : ∀ c ∈ digits, isDecimalDigit c = true) :
    (digits.filterMap digitValue?).length = digits.length :=
  List.filterMap_length_eq_length.2 h

theorem readDigits_eq_nil_iff {s : List Char} {values : List Nat} :
    readDigits s = (values, []) ↔
      (∀ c ∈ s, isDecimalDigit c = true) ∧ s.filterMap digitValue? = values := by
  rw [readDigits, Prod.mk.injEq, and_comm, List.dropWhile_eq_nil_iff]
  refine and_congr_right fun hdigits => ?_
  rw [List.takeWhile_eq_self_iff.2 hdigits]

/-- A text is read as an integer numeral exactly if it is one. -/
theorem read?_eq_integer_iff {s : List Char} {negative : Bool} {values : List Nat} :
    read? s = some (integer negative values) ↔
      ∃ digits, IsInteger s negative digits ∧ digits.filterMap digitValue? = values := by
  constructor
  · intro h
    obtain ⟨sign, hsign, hs⟩ := exists_sign s
    have hdecimal : ∀ {o : Option Int} {whole fraction : List Nat},
        o.map (decimal (readSign s).1 whole fraction) ≠ some (integer negative values) := by
      intro o whole fraction ho
      obtain ⟨e, -, he⟩ := Option.map_eq_some_iff.1 ho
      exact Numeral.noConfusion he
    rw [read?] at h
    dsimp only at h
    split at h
    · split at h
      · simp at h
      · exact absurd h hdecimal
    · simp at h
    · rename_i values' hne hread
      obtain ⟨hnegative, hvalues⟩ := Numeral.integer.inj (Option.some.inj h)
      obtain ⟨hdigits, hread⟩ := readDigits_eq_nil_iff.1 hread
      refine ⟨(readSign s).2, ⟨sign, hnegative ▸ hsign, hs, ?_, hdigits⟩, hread.trans hvalues⟩
      intro hnil
      rw [hnil] at hread
      exact hne hread.symm
    · exact absurd h hdecimal
    · exact absurd h hdecimal
  · rintro ⟨digits, ⟨sign, hsign, rfl, hne, hdigits⟩, rfl⟩
    have hlength := length_filterMap_digitValue? hdigits
    have hread := readDigits_eq_nil_iff.2 ⟨hdigits, rfl⟩
    generalize digits.filterMap digitValue? = values at hlength hread ⊢
    obtain ⟨value, rest, rfl⟩ : ∃ value rest, values = value :: rest := by
      refine List.exists_cons_of_ne_nil fun hnil => hne (List.length_eq_zero_iff.1 ?_)
      rw [← hlength, hnil, List.length_nil]
    rw [read?, readSign_append_digits hsign hdigits]
    dsimp only
    rw [hread]

end Numeral

namespace Number

theorem isOverlong_zero : (0 : Number).isOverlong = false := by
  have hpos : ∀ k, 0 < Nat.pow 10 k := fun k => Nat.pow_pos (by decide)
  show (int 0).isOverlong = false
  rw [isOverlong, decide_eq_false_iff_not, Int.natAbs_zero, Nat.not_le]
  exact hpos _

/-- The text is an integer numeral of more digits than the limit, between blanks. -/
def IsOverlongNumeral (s : String) (count : Nat) : Prop :=
  ∃ before body after negative digits, s.toList = before ++ body ++ after ∧
    (∀ c ∈ before, isBlank c = true) ∧ (∀ c ∈ after, isBlank c = true) ∧
    Numeral.IsInteger body negative digits ∧ digits.length = count ∧ digitLimit < count

theorem isOverlongNumeral_of_digits {s : String} (h : ∀ c ∈ s.toList, isDecimalDigit c = true)
    (hlimit : digitLimit < s.toList.length) : IsOverlongNumeral s s.toList.length := by
  have hne : s.toList ≠ [] := List.ne_nil_of_length_pos (by omega)
  refine ⟨[], s.toList, [], false, s.toList, by simp, by simp, by simp, ?_, rfl, hlimit⟩
  exact ⟨[], List.mem_cons_self, rfl, hne, h⟩

theorem ofIntegerDigits_eq_error_iff {negative : Bool} {values : List Nat} {e : Overlong} :
    ofIntegerDigits negative values = .error e ↔
      e = .numeral values.length ∧ digitLimit < values.length := by
  rw [ofIntegerDigits]
  split
  · rename_i h
    simp [h, eq_comm]
  · rename_i h
    simp [h]

theorem ofNumeral_eq_error_iff {numeral : Numeral} {e : Overlong} :
    ofNumeral numeral = .error e ↔ ∃ negative values, numeral = .integer negative values ∧
      e = .numeral values.length ∧ digitLimit < values.length := by
  cases numeral with
  | integer negative values =>
    have hmap : (int <$> ofIntegerDigits negative values : Except Overlong Number) = .error e ↔
        ofIntegerDigits negative values = .error e := by
      cases ofIntegerDigits negative values <;> simp [Functor.map, Except.map]
    rw [ofNumeral, hmap, ofIntegerDigits_eq_error_iff]
    constructor
    · exact fun h => ⟨negative, values, rfl, h⟩
    · rintro ⟨_, _, ⟨⟩, h⟩
      exact h
  | decimal negative whole fraction exponent => simp [ofNumeral]

/-- A text has no number exactly if it is an integer numeral of too many digits. -/
theorem ofText_eq_error_iff {s : String} {e : Overlong} :
    ofText s = .error e ↔ ∃ count, e = .numeral count ∧ IsOverlongNumeral s count := by
  have hread : ofText s = .error e ↔ ∃ negative values,
      Numeral.read? (strip s.toList) = some (.integer negative values) ∧
        e = .numeral values.length ∧ digitLimit < values.length := by
    rw [ofText]
    cases Numeral.read? (strip s.toList) with
    | none => simp
    | some numeral => simp [ofNumeral_eq_error_iff]
  rw [hread]
  constructor
  · rintro ⟨negative, values, hvalues, rfl, hlimit⟩
    obtain ⟨digits, hinteger, rfl⟩ := Numeral.read?_eq_integer_iff.1 hvalues
    obtain ⟨before, after, hs, hbefore, hafter, -⟩ := isStripped_strip s.toList
    rw [Numeral.length_filterMap_digitValue? hinteger.isDecimalDigit] at hlimit ⊢
    exact ⟨_, rfl, before, _, after, negative, digits, hs, hbefore, hafter, hinteger, rfl, hlimit⟩
  · rintro ⟨count, rfl, before, body, after, negative, digits, hs, hbefore, hafter, hinteger, rfl,
      hlimit⟩
    have hstrip : body = strip s.toList := (hinteger.isStripped_append hs hbefore hafter).eq_strip
    have hlength := Numeral.length_filterMap_digitValue? hinteger.isDecimalDigit
    refine ⟨negative, digits.filterMap digitValue?, ?_, ?_⟩
    · rw [← hstrip]
      exact Numeral.read?_eq_integer_iff.2 ⟨digits, hinteger, rfl⟩
    · rw [hlength]
      exact ⟨rfl, hlimit⟩

end Number

end LuauLayout
