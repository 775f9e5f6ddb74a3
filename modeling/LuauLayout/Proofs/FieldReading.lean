import LuauLayout.Layout.Reading
import LuauLayout.Proofs.NumeralText

/-! What a field is read as.  It holds what the value under its keys stands for, and its default when
there is no value or it stands for nothing.  Only whole numbers of too many digits have no reading: as
numerals in a field for a number, and by themselves in a field for a text. -/

namespace LuauLayout

open Text (strip)
open Value (Entries lookupFirst)

/-! ### What values stand for -/

namespace Value

/-- The value under the first of the keys that is present. -/
def under (entries : Entries) (keys : List String) : Option Value :=
  (lookupFirst entries keys).map (·.2)

/-- The value is a finite number, or a numeral of one. -/
inductive Denotes : Value → Number → Prop
  | int (n : Int) : Denotes (.int n) (.int n)
  | float (x : Binary64) : Denotes (.float (.finite x)) (.float x)
  | integer {s : String} {negative : Bool} {values : List Nat}
      (h : Numeral.read? (strip s.toList) = some (.integer negative values)) :
      Denotes (.text s) (.int (if negative then -(Numeral.ofDigits values : Int)
        else Numeral.ofDigits values))
  | decimal {s : String} {negative : Bool} {whole fraction : List Nat} {exponent : Int}
      {x : Binary64}
      (h : Numeral.read? (strip s.toList) = some (.decimal negative whole fraction exponent))
      (hx : (Numeral.decimal negative whole fraction exponent).toDecimal.nearest = .finite x) :
      Denotes (.text s) (.float x)

/-- The value is a text that is not empty, or a number other than zero, which has a text. -/
inductive DenotesText : Value → Option String → Prop
  | text {s : String} (h : s ≠ "") : DenotesText (.text s) (some s)
  | int {n : Int} (h : n ≠ 0) : DenotesText (.int n) (some (Number.int n).text)
  | float {x : Binary64} (h : ¬(Number.float x).isZero = true) :
      DenotesText (.float (.finite x)) (some (Number.float x).text)

end Value

open Value (Denotes DenotesText under)

/-- The field holds what the value found for it stands for, and its default when no value is found or
it stands for nothing. -/
def Holds {α : Type} (denotes : Value → α → Prop) (default : α) (found : Option Value) (field : α) :
    Prop :=
  (∃ v, found = some v ∧ denotes v field) ∨
    (∀ v a, found = some v → ¬denotes v a) ∧ field = default

namespace Holds

variable {α : Type} {denotes : Value → α → Prop} {default : α} {v : Value}

theorem of_none : Holds denotes default none default :=
  Or.inr ⟨fun _ _ h => absurd h (by simp), rfl⟩

theorem of_denotes {a : α} (h : denotes v a) : Holds denotes default (some v) a :=
  Or.inl ⟨v, rfl, h⟩

theorem of_not_denotes (h : ∀ a, ¬denotes v a) : Holds denotes default (some v) default := by
  refine Or.inr ⟨?_, rfl⟩
  rintro _ a ⟨⟩
  exact h a

end Holds

/-- A present opacity is the number of its value, moved between zero and one. -/
def DenotesOpacity (v : Value) (opacity : Option Number) : Prop :=
  ∃ n, Holds Denotes 0 (some v) n ∧ opacity = some n.clampToOne

/-- A size of the text is the number of a value that is not bare. -/
def DenotesFontSize (v : Value) (size : Option Number) : Prop :=
  ¬v.isBare = true ∧ ∃ n, Holds Denotes 0 (some v) n ∧ size = some n

/-- Only the literal false hides an item. -/
def DenotesExport (v : Value) (exported : Bool) : Prop := v = .bool false ∧ exported = false

/-! ### Single values -/

namespace Value

/-- The value is an integer numeral of too many digits. -/
def IsOverlongText (v : Value) : Prop :=
  ∃ s count, v = .text s ∧ Number.IsOverlongNumeral s count

/-- The value is a whole number of too many digits. -/
def IsOverlongInt (v : Value) : Prop :=
  ∃ n : Int, v = .int n ∧ (Number.int n).isOverlong = true

end Value

namespace Value

variable {v : Value} {e : Number.Overlong}

theorem toNumber_eq_error_iff :
    v.toNumber = .error e ↔
      ∃ s count, v = .text s ∧ e = .numeral count ∧ Number.IsOverlongNumeral s count := by
  cases v with
  | text s =>
    rw [toNumber, Number.ofText_eq_error_iff]
    constructor
    · rintro ⟨count, he, h⟩
      exact ⟨s, count, rfl, he, h⟩
    · rintro ⟨_, count, ⟨⟩, he, h⟩
      exact ⟨count, he, h⟩
  | _ => simp [toNumber]

theorem toText_eq_error_iff :
    v.toText = .error e ↔ e = .number ∧ v.IsOverlongInt := by
  have hoverlong : v.isOverlong = true ↔ v.IsOverlongInt := by
    cases v <;> simp [isOverlong, IsOverlongInt, Number.isOverlong]
  rw [toText, ← hoverlong]
  split
  · rename_i h
    simp [h, eq_comm]
  · rename_i h
    simp [h]

/-- A text holds the number of its numeral, and zero if it is none or none that is finite. -/
theorem holds_of_ofText {s : String} {n : Number} (h : Number.ofText s = .ok n) :
    Holds Denotes 0 (some (.text s)) n := by
  rw [Number.ofText] at h
  split at h
  · rename_i numeral hread
    cases numeral with
    | integer negative values =>
      rw [Number.ofNumeral, Number.ofIntegerDigits] at h
      split at h
      · cases h
      · obtain rfl := Except.ok.inj h
        exact .of_denotes (.integer hread)
    | decimal negative whole fraction exponent =>
      obtain rfl := Except.ok.inj h
      cases hx : (Numeral.decimal negative whole fraction exponent).toDecimal.nearest with
      | finite x => exact .of_denotes (.decimal hread hx)
      | _ =>
        refine .of_not_denotes fun a ha => ?_
        cases ha with
        | integer h' => simp [hread] at h'
        | decimal h' hx' =>
          obtain ⟨rfl, rfl, rfl, rfl⟩ := by simpa [hread] using h'
          simp [hx] at hx'
  · rename_i hread
    obtain rfl := Except.ok.inj h
    refine .of_not_denotes fun a ha => ?_
    cases ha with
    | integer h' => simp [hread] at h'
    | decimal h' _ => simp [hread] at h'

theorem holds_of_toNumber {n : Number} (h : v.toNumber = .ok n) : Holds Denotes 0 (some v) n := by
  cases v with
  | int m =>
    obtain rfl := Except.ok.inj h
    exact .of_denotes (.int m)
  | float x =>
    obtain rfl := Except.ok.inj h
    cases x with
    | finite x => exact .of_denotes (.float x)
    | infinity negative => exact .of_not_denotes fun a ha => by cases ha
    | nan => exact .of_not_denotes fun a ha => by cases ha
  | text s => exact holds_of_ofText h
  | _ =>
    obtain rfl := Except.ok.inj h
    exact .of_not_denotes fun a ha => by cases ha

theorem isZero_zero : (0 : Number).isZero = true := by
  show ((0 : Int) * Binary64.one == 0) = true
  rw [Int.zero_mul]
  rfl

theorem holds_toText? (v : Value) : Holds DenotesText none (some v) v.toText? := by
  cases v with
  | text s =>
    rw [toText?]
    split
    · rename_i h
      obtain rfl : s = "" := by simpa using h
      exact .of_not_denotes fun a ha => by cases ha with | text h => exact h rfl
    · rename_i h
      exact .of_denotes (.text (by simpa using h))
  | int n =>
    rw [toText?]
    split
    · rename_i h
      subst h
      exact .of_not_denotes fun a ha => by cases ha with | int h => exact h rfl
    · rename_i h
      exact .of_denotes (.int h)
  | float x =>
    by_cases h : (Number.ofExtended x).isZero = true
    · rw [toText?, if_pos h]
      refine .of_not_denotes fun a ha => ?_
      cases ha with | float h' => exact h' h
    · rw [toText?, if_neg h]
      cases x with
      | finite x => exact .of_denotes (.float h)
      | _ => exact absurd isZero_zero h
  | _ => exact .of_not_denotes fun a ha => by cases ha

theorem holds_of_toText {s : Option String} (h : v.toText = .ok s) :
    Holds DenotesText none (some v) s := by
  rw [toText] at h
  split at h
  · cases h
  · obtain rfl := Except.ok.inj h
    exact holds_toText? v

end Value

/-! ### Single fields -/

section Field

variable {α : Type} {entries : Entries} {keys : List String} {default : α}
  {f : Value → Except Number.Overlong α}

/-- What the readings of single fields have in common: the first key that is present, and a value that
may have no reading. -/
def readField (entries : Entries) (keys : List String) (default : α)
    (f : Value → Except Number.Overlong α) : Checked α :=
  match lookupFirst entries keys with
  | some (key, v) => .ofExcept key default (f v)
  | none => pure default

theorem faults_readField_eq_nil_iff :
    (readField entries keys default f).faults = [] ↔
      ∀ v, under entries keys = some v → ∀ e, f v ≠ .error e := by
  rw [readField, under]
  cases lookupFirst entries keys with
  | none => simp [pure]
  | some entry =>
    obtain ⟨key, v⟩ := entry
    cases h : f v with
    | ok a => simp [Checked.ofExcept, h]
    | error e => simp [Checked.ofExcept, h]

theorem holds_readField {denotes : Value → α → Prop}
    (hfaults : (readField entries keys default f).faults = [])
    (hf : ∀ v a, f v = .ok a → Holds denotes default (some v) a) :
    Holds denotes default (under entries keys) (readField entries keys default f).value := by
  rw [readField, under] at *
  cases hfound : lookupFirst entries keys with
  | none => exact .of_none
  | some entry =>
    obtain ⟨key, v⟩ := entry
    rw [hfound] at hfaults
    cases h : f v with
    | ok a =>
      simp only [Checked.ofExcept, h]
      exact hf v a h
    | error e => simp [Checked.ofExcept, h] at hfaults

theorem lookupFirst_singleton (entries : Entries) (key : String) :
    lookupFirst entries [key] = (Value.lookup key entries).map (key, ·) := by
  rw [lookupFirst, List.findSome?_singleton]

theorem readNumber_eq (entries : Entries) (key : String) :
    readNumber entries key = readField entries [key] 0 Value.toNumber := by
  rw [readNumber, readField, lookupFirst_singleton]
  cases Value.lookup key entries <;> rfl

theorem readText_eq (entries : Entries) (keys : List String) :
    readText entries keys = readField entries keys none Value.toText := rfl

theorem readOpacity_eq (entries : Entries) :
    readOpacity entries =
      readField entries ["opacity"] none fun v => (some ·.clampToOne) <$> v.toNumber := by
  rw [readOpacity, readField, lookupFirst_singleton]
  cases Value.lookup "opacity" entries <;> rfl

theorem readFontSize_eq (entries : Entries) :
    readFontSize entries = readField entries ["fontSize", "font_size"] none fun v =>
      if v.isBare then .ok none else some <$> v.toNumber := by
  rw [readFontSize, readField]
  cases lookupFirst entries ["fontSize", "font_size"] with
  | none => rfl
  | some entry =>
    obtain ⟨key, v⟩ := entry
    dsimp only
    split <;> rfl

theorem map_eq_ok_iff {β : Type} {g : α → β} {x : Except Number.Overlong α} {b : β} :
    g <$> x = .ok b ↔ ∃ a, x = .ok a ∧ g a = b := by
  cases x <;> simp [Functor.map, Except.map]

theorem map_eq_error_iff {β : Type} {g : α → β} {x : Except Number.Overlong α}
    {e : Number.Overlong} : g <$> x = .error e ↔ x = .error e := by
  cases x <;> simp [Functor.map, Except.map]

theorem isOverlongText_iff {v : Value} : v.IsOverlongText ↔ ∃ e, v.toNumber = .error e := by
  simp only [Value.toNumber_eq_error_iff, Value.IsOverlongText]
  constructor
  · rintro ⟨s, count, hv, h⟩
    exact ⟨.numeral count, s, count, hv, rfl, h⟩
  · rintro ⟨e, s, count, hv, -, h⟩
    exact ⟨s, count, hv, h⟩

/-- A numeral of too many digits is not empty. -/
theorem isBare_of_isOverlongText {v : Value} (h : v.IsOverlongText) : ¬v.isBare = true := by
  obtain ⟨s, count, rfl, before, body, after, negative, digits, hs, -, -, hinteger, -⟩ := h
  have hne : s.toList ≠ [] := by
    rw [hs]
    simp [hinteger.ne_nil]
  simpa [Value.isBare] using hne

theorem faults_readNumber {key : String} :
    (readNumber entries key).faults = [] ↔ ∀ v, under entries [key] = some v → ¬v.IsOverlongText := by
  simp only [readNumber_eq, faults_readField_eq_nil_iff, isOverlongText_iff, not_exists, ne_eq]

theorem holds_readNumber {key : String} (h : (readNumber entries key).faults = []) :
    Holds Denotes 0 (under entries [key]) (readNumber entries key).value := by
  rw [readNumber_eq] at h ⊢
  exact holds_readField h fun v a hv => Value.holds_of_toNumber hv

theorem faults_readText :
    (readText entries keys).faults = [] ↔ ∀ v, under entries keys = some v → ¬v.IsOverlongInt := by
  simp only [readText_eq, faults_readField_eq_nil_iff, ne_eq, Value.toText_eq_error_iff, not_and,
    forall_eq]

theorem holds_readText (h : (readText entries keys).faults = []) :
    Holds DenotesText none (under entries keys) (readText entries keys).value := by
  rw [readText_eq] at h ⊢
  exact holds_readField h fun v a hv => Value.holds_of_toText hv

theorem faults_readOpacity :
    (readOpacity entries).faults = [] ↔
      ∀ v, under entries ["opacity"] = some v → ¬v.IsOverlongText := by
  simp only [readOpacity_eq, faults_readField_eq_nil_iff, isOverlongText_iff, not_exists, ne_eq,
    map_eq_error_iff]

theorem holds_readOpacity (h : (readOpacity entries).faults = []) :
    Holds DenotesOpacity none (under entries ["opacity"]) (readOpacity entries).value := by
  rw [readOpacity_eq] at h ⊢
  refine holds_readField h fun v a hv => ?_
  obtain ⟨n, hn, rfl⟩ := map_eq_ok_iff.1 hv
  exact .of_denotes ⟨n, Value.holds_of_toNumber hn, rfl⟩

theorem faults_readFontSize :
    (readFontSize entries).faults = [] ↔
      ∀ v, under entries ["fontSize", "font_size"] = some v → ¬v.IsOverlongText := by
  rw [readFontSize_eq, faults_readField_eq_nil_iff]
  refine forall₂_congr fun v _ => ?_
  by_cases hbare : v.isBare = true
  · simp only [if_pos hbare, ne_eq, reduceCtorEq, not_false_eq_true, implies_true, true_iff]
    exact fun h => isBare_of_isOverlongText h hbare
  · simp only [if_neg hbare, ne_eq, map_eq_error_iff, isOverlongText_iff, not_exists]

theorem holds_readFontSize (h : (readFontSize entries).faults = []) :
    Holds DenotesFontSize none (under entries ["fontSize", "font_size"])
      (readFontSize entries).value := by
  rw [readFontSize_eq] at h ⊢
  refine holds_readField h fun v a hv => ?_
  by_cases hbare : v.isBare = true
  · rw [if_pos hbare] at hv
    obtain rfl := Except.ok.inj hv
    exact .of_not_denotes fun a ha => ha.1 hbare
  · rw [if_neg hbare] at hv
    obtain ⟨n, hn, rfl⟩ := map_eq_ok_iff.1 hv
    exact .of_denotes ⟨hbare, n, Value.holds_of_toNumber hn, rfl⟩

theorem holds_readExport :
    Holds DenotesExport true (under entries ["export"])
      (!(Value.lookup "export" entries).any Value.isFalse) := by
  rw [under, lookupFirst_singleton]
  cases Value.lookup "export" entries with
  | none => exact .of_none
  | some v =>
    by_cases h : v = .bool false
    · subst h
      exact .of_denotes ⟨rfl, rfl⟩
    · have hfalse : v.isFalse = false := by
        cases v with
        | bool b => simpa [Value.isFalse] using h
        | _ => rfl
      simp only [Option.map_some, Option.any_some, hfalse, Bool.not_false]
      exact .of_not_denotes fun a ha => h ha.1

end Field

end LuauLayout
