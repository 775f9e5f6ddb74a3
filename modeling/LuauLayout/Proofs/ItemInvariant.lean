import LuauLayout.Proofs.LiteralReading
import LuauLayout.Proofs.WriteBack

/-! What every item holds that a mapping is read as: finite numbers, texts that are not empty, an opacity
between zero and one wherever there is a value for it, and a size of the text wherever that value is not
bare.  Nothing but the values under the keys of an item goes into it. -/

namespace LuauLayout

open Value (Entries lookup lookupFirst under)

/-! ### Values -/

namespace Value

/-- A whole number, or a double within the range of finite ones. -/
inductive IsFiniteNumber : Value → Prop
  | int (n : ℤ) : IsFiniteNumber (.int n)
  | float {x : Binary64} (h : |x.toRat| < 2 ^ 1024) : IsFiniteNumber (.float (.finite x))

/-- The values that are bare. -/
def bareValues : List Value :=
  [.null, .bool false, .int 0, .float (.finite (.zero false)), .float (.finite (.zero true)), .text "",
    .list [], .tuple [], .mapping []]

theorem isBare_iff {v : Value} : v.isBare = true ↔ v ∈ bareValues := by
  cases v with
  | float x =>
    cases x with
    | finite x =>
      have hzero : x.isZero = true ↔ x = .zero false ∨ x = .zero true := by
        simp only [Binary64.ext_iff, Binary64.zero, Binary64.isZero, beq_iff_eq]
        cases x.negative <;> simp
      simp [isBare, bareValues, hzero]
    | _ => simp [isBare, bareValues]
  | _ => simp [isBare, bareValues]

theorem lookup_eq_none_iff {key : String} {entries : Entries} :
    lookup key entries = none ↔ key ∉ entries.map Prod.fst := by
  induction entries with
  | nil => simp [lookup]
  | cons entry rest ih =>
    obtain ⟨name, v⟩ := entry
    by_cases h : name = key
    · simp [lookup, h]
    · simp [lookup, h, ih, Ne.symm h]

theorem lookupFirst_congr {entries entries' : Entries} {keys : List String}
    (h : ∀ key ∈ keys, lookup key entries' = lookup key entries) :
    lookupFirst entries' keys = lookupFirst entries keys := by
  induction keys with
  | nil => rfl
  | cons key rest ih =>
    rw [List.forall_mem_cons] at h
    have hrest := ih h.2
    rw [lookupFirst] at hrest ⊢
    rw [List.findSome?_cons, h.1, hrest]
    rfl

theorem under_singleton (entries : Entries) (key : String) : under entries [key] = lookup key entries := by
  rw [under, lookupFirst_singleton]
  cases lookup key entries <;> rfl

end Value

namespace Number

theorem isFiniteNumber_toValue (n : Number) : n.toValue.IsFiniteNumber := by
  cases n with
  | int n => exact .int n
  | float x => exact .float x.abs_toRat_lt

theorem toRat_eq_div (n : Number) : n.toRat = n.toUnits / 2 ^ 1074 := by
  cases n with
  | int n =>
    have hpos : (0 : ℚ) < 2 ^ 1074 := by positivity
    rw [toRat, toUnits, Int.cast_mul, Int.cast_natCast, Binary64.cast_one,
      mul_div_cancel_right₀ _ hpos.ne']
  | float x => rfl

/-- The number lies between zero and one, and each end is a whole number. -/
structure IsFraction (n : Number) : Prop where
  nonneg : 0 ≤ n.toRat
  le_one : n.toRat ≤ 1
  eq_zero : n.toRat = 0 → n = int 0
  eq_one : n.toRat = 1 → n = int 1

theorem isFraction_clampToOne (n : Number) : n.clampToOne.IsFraction := by
  have hzero : toRat 0 = 0 := Int.cast_zero
  have hone : toRat 1 = 1 := Int.cast_one
  rw [clampToOne]
  split
  · exact ⟨hzero.ge, by rw [hzero]; exact zero_le_one, fun _ => rfl, fun h => by simp [hzero] at h⟩
  · rename_i hlow
    split
    · rename_i hhigh
      have hpos : (0 : ℚ) < 2 ^ 1074 := by positivity
      have hgt : 0 < n.toRat := by
        rw [toRat_eq_div]
        exact div_pos (by exact_mod_cast not_le.1 hlow) hpos
      have hlt : n.toRat < 1 := by
        rw [toRat_eq_div, div_lt_one hpos, ← Binary64.cast_one]
        exact_mod_cast hhigh
      exact ⟨hgt.le, hlt.le, fun h => absurd h hgt.ne', fun h => absurd h hlt.ne⟩
    · exact ⟨by rw [hone]; exact zero_le_one, hone.le, fun h => by simp [hone] at h, fun _ => rfl⟩

end Number

/-! ### Fields -/

namespace Holds

variable {α : Type} {denotes : Value → Option α → Prop} {found : Option Value} {field : Option α}

/-- A field is absent where its value stands for none. -/
theorem eq_none_iff (h : Holds denotes none found field)
    (hpresent : ∀ v a, denotes v a → a ≠ none) :
    field = none ↔ ∀ v, found = some v → ∀ a, ¬denotes v a := by
  rcases h with ⟨v, hfound, hdenotes⟩ | ⟨hnone, hfield⟩
  · exact ⟨fun hfield => absurd hfield (hpresent v field hdenotes),
      fun hnone => absurd hdenotes (hnone v hfound field)⟩
  · exact ⟨fun _ v hfound a => hnone v a hfound, fun _ => hfield⟩

end Holds

/-- Each value stands for a number, or the field for it is left at zero. -/
theorem exists_holds_denotes (v : Value) : ∃ n, Holds Value.Denotes 0 (some v) n := by
  by_cases h : ∃ n, Value.Denotes v n
  · obtain ⟨n, hn⟩ := h
    exact ⟨n, .of_denotes hn⟩
  · exact ⟨0, .of_not_denotes fun n hn => h ⟨n, hn⟩⟩

theorem opacity_eq_none_iff {found : Option Value} {opacity : Option Number}
    (h : Holds DenotesOpacity none found opacity) : opacity = none ↔ found = none := by
  rw [h.eq_none_iff (by rintro v _ ⟨n, -, rfl⟩; simp), Option.eq_none_iff_forall_ne_some]
  refine forall_congr' fun v => ?_
  obtain ⟨n, hn⟩ := exists_holds_denotes v
  exact ⟨fun hnone hfound => hnone hfound _ ⟨n, hn, rfl⟩, fun hne hfound => absurd hfound hne⟩

theorem fontSize_eq_none_iff {found : Option Value} {size : Option Number}
    (h : Holds DenotesFontSize none found size) :
    size = none ↔ ∀ v, found = some v → v ∈ Value.bareValues := by
  rw [h.eq_none_iff (by rintro v _ ⟨-, n, -, rfl⟩; simp)]
  refine forall₂_congr fun v _ => ?_
  rw [← Value.isBare_iff]
  obtain ⟨n, hn⟩ := exists_holds_denotes v
  constructor
  · intro hnone
    by_contra hbare
    exact hnone _ ⟨hbare, n, hn, rfl⟩
  · exact fun hbare a ha => ha.1 hbare

theorem exported_eq_false_iff {found : Option Value} {exported : Bool}
    (h : Holds DenotesExport true found exported) :
    exported = false ↔ found = some (.bool false) := by
  rcases h with ⟨v, hfound, rfl, hfalse⟩ | ⟨hnone, rfl⟩
  · exact ⟨fun _ => hfound, fun _ => hfalse⟩
  · refine ⟨fun h => by simp at h, fun hfound => ?_⟩
    exact absurd ⟨rfl, rfl⟩ (hnone _ false hfound)

theorem readField_congr {α : Type} {entries entries' : Entries} {keys : List String}
    (h : ∀ key ∈ keys, lookup key entries' = lookup key entries) (default : α)
    (f : Value → Except Number.Overlong α) :
    readField entries' keys default f = readField entries keys default f := by
  rw [readField, readField, Value.lookupFirst_congr h]

/-! ### Items -/

namespace Item

/-- The keys that an item is read from. -/
def keys : List String :=
  ["type", "name", "x", "y", "w", "h", "fill", "opacity", "text", "textColor", "text_color",
    "fontSize", "font_size", "imageId", "image_id", "export", "role"]

/-- The fields of an item that hold numbers. -/
def numbers (item : Item) : List Number :=
  [item.x, item.y, item.w, item.h] ++ item.opacity.toList ++ item.fontSize.toList

/-- The item is one that a mapping of these entries may stand for. -/
structure IsValid (entries : Entries) (item : Item) : Prop where
  numbers : ∀ n ∈ item.numbers, n.toValue.IsFiniteNumber
  texts : ∀ field ∈ item.texts, field ≠ some ""
  opacity_eq_none : item.opacity = none ↔ "opacity" ∉ entries.map Prod.fst
  opacity : ∀ n, item.opacity = some n → n.IsFraction
  fontSize_eq_none : item.fontSize = none ↔
    ∀ v, under entries ["fontSize", "font_size"] = some v → v ∈ Value.bareValues
  exported_eq_false : item.exported = false ↔ lookup "export" entries = some (.bool false)

theorem IsReadFrom.isValid {entries : Entries} {item : Item} (h : item.IsReadFrom entries) :
    item.IsValid entries where
  numbers := fun n _ => n.isFiniteNumber_toValue
  texts := h.isNormal.texts
  opacity_eq_none := by
    rw [opacity_eq_none_iff h.opacity, Value.under_singleton, Value.lookup_eq_none_iff]
  opacity := by
    intro n hn
    rw [← h.isNormal.opacity n hn]
    exact n.isFraction_clampToOne
  fontSize_eq_none := fontSize_eq_none_iff h.fontSize
  exported_eq_false := by rw [exported_eq_false_iff h.exported, Value.under_singleton]

/-- Entries that agree on the keys of an item are read alike. -/
theorem read_congr {entries entries' : Entries}
    (h : ∀ key ∈ keys, lookup key entries' = lookup key entries) : read entries' = read entries := by
  have hfield : ∀ {α : Type} {fieldKeys : List String}, fieldKeys ⊆ keys → ∀ (default : α) f,
      readField entries' fieldKeys default f = readField entries fieldKeys default f :=
    fun hsubset => readField_congr fun key hkey => h key (hsubset hkey)
  simp only [read, readNumber_eq, readText_eq, readOpacity_eq, readFontSize_eq]
  rw [h "export" (by decide)]
  repeat rw [hfield (by decide)]

/-- A mapping is read as an item that is valid for its entries, and so is each mapping that has the same
values under the keys of an item, as the same item. -/
theorem isValid_of_read {entries : Entries} {item : Item}
    (h : (read entries).toExcept = .ok item) :
    item.IsValid entries ∧
      ∀ entries', (∀ key ∈ keys, lookup key entries' = lookup key entries) →
        (read entries').toExcept = .ok item := by
  obtain ⟨hfaults, rfl⟩ := Checked.toExcept_eq_ok_iff.1 h
  refine ⟨(isReadFrom_read hfaults).isValid, fun entries' hkeys => ?_⟩
  rw [read_congr hkeys]
  exact h

/-- An opacity of one is a whole number, a size of zero is none, and only the literal false hides. -/
theorem isValid_of_read_opaque :
    IsValid [("opacity", .text "1.0"), ("font_size", .int 0), ("export", .int 0)]
      { opacity := some 1 } ∧
    (read [("note", .null), ("opacity", .text "1.0"), ("font_size", .int 0),
      ("export", .int 0)]).toExcept = .ok { opacity := some 1 } := by
  have h : (read [("opacity", .text "1.0"), ("font_size", .int 0), ("export", .int 0)]).toExcept =
      .ok { opacity := some 1 } := by decide +kernel
  refine ⟨(isValid_of_read h).1, (isValid_of_read h).2 _ fun key hkey => ?_⟩
  have hne : "note" ≠ key := by
    rintro rfl
    exact absurd hkey (by decide)
  simp [lookup, hne]

end Item

end LuauLayout
