import LuauLayout.Proofs.LayoutReading

/-! Which fields stop a layout from being read.  As long as no whole number in a mapping has too many
digits, these are the fields for numbers that hold a numeral of too many digits, and the reading reports
all of them: those of the canvas, then those of the items in order, each with the keys and the place in
the list of items under which it was found. -/

namespace LuauLayout

open Value (Entries lookupFirst under)

/-! ### Values of numeric fields -/

/-- A value that is read for a field, with the way to it. -/
structure FieldValue where
  location : List Step
  value : Value

/-- For each of the fields in turn the value under the first of its keys that is present. -/
def fieldValues (fields : List (List String)) (entries : Entries) : List FieldValue :=
  fields.filterMap fun keys =>
    (lookupFirst entries keys).map fun found => ⟨[.key found.1], found.2⟩

namespace FieldValue

/-- The field as it is found on the way that begins with `step`. -/
def below (step : Step) (field : FieldValue) : FieldValue :=
  { field with location := step :: field.location }

/-- The fault of a field that has no number. -/
def fault? (field : FieldValue) : Option FieldFault :=
  match field.value.toNumber with
  | .ok _ => none
  | .error e => some ⟨field.location, e⟩

end FieldValue

/-- The keys of the fields for numbers, in the order in which they are read. -/
def Canvas.numberKeys : List (List String) := [["w"], ["h"]]

def Item.numberKeys : List (List String) :=
  [["x"], ["y"], ["w"], ["h"], ["opacity"], ["fontSize", "font_size"]]

namespace Layout

def canvasNumbers (entries : Entries) : List FieldValue :=
  match lookupFirst entries ["canvasSize", "canvas_size"] with
  | some (key, .mapping fields) =>
    (fieldValues Canvas.numberKeys fields).map (·.below (.key key))
  | _ => []

/-- The numeric fields of one entry of the list of items. -/
def entryNumbers : Value → List FieldValue
  | .mapping fields => fieldValues Item.numberKeys fields
  | _ => []

def itemNumbers (entries : Entries) : List FieldValue :=
  ((itemEntries entries).zipIdx.flatMap fun e =>
    (entryNumbers e.1).map (·.below (.index e.2))).map (·.below (.key "items"))

/-- The numeric fields that a mapping has values for, the canvas before the items. -/
def numberFields (entries : Entries) : List FieldValue :=
  canvasNumbers entries ++ itemNumbers entries

end Layout

/-! ### Whole numbers in a value -/

namespace Value

/-- The first value is the second one or stands somewhere in it. -/
inductive Part : Value → Value → Prop
  | self (v : Value) : Part v v
  | list {u v : Value} {values : List Value} (hv : v ∈ values) (h : Part u v) :
      Part u (.list values)
  | tuple {u v : Value} {values : List Value} (hv : v ∈ values) (h : Part u v) :
      Part u (.tuple values)
  | mapping {u v : Value} {key : String} {entries : Entries} (hv : (key, v) ∈ entries)
      (h : Part u v) : Part u (.mapping entries)

/-- No whole number in the value has more digits than the limit. -/
def HasShortIntegers (v : Value) : Prop :=
  ∀ n, Part (.int n) v → (Number.int n).isOverlong = false

theorem mem_of_lookup {entries : Entries} {key : String} {v : Value}
    (h : lookup key entries = some v) : (key, v) ∈ entries := by
  induction entries with
  | nil => cases h
  | cons entry rest ih =>
    obtain ⟨k, v'⟩ := entry
    rw [lookup, Option.or_eq_some_iff] at h
    rcases h with h | ⟨-, h⟩
    · exact List.mem_cons_of_mem _ (ih h)
    · split at h
      · rename_i hk
        obtain rfl := Option.some.inj h
        exact hk ▸ List.mem_cons_self
      · cases h

theorem mem_of_lookupFirst {entries : Entries} {keys : List String} {key : String} {v : Value}
    (h : lookupFirst entries keys = some (key, v)) : (key, v) ∈ entries := by
  obtain ⟨key', -, hfound⟩ := List.exists_of_findSome?_eq_some h
  obtain ⟨v', hlookup, heq⟩ := Option.map_eq_some_iff.1 hfound
  obtain ⟨rfl, rfl⟩ := Prod.mk.inj heq
  exact mem_of_lookup hlookup

namespace HasShortIntegers

variable {entries : Entries} {v : Value} {values : List Value}

@[simp] theorem text (s : String) : HasShortIntegers (.text s) := nofun

@[simp] theorem bool (b : Bool) : HasShortIntegers (.bool b) := nofun

@[simp] theorem int_iff {n : Int} :
    HasShortIntegers (.int n) ↔ (Number.int n).isOverlong = false := by
  refine ⟨fun h => h n (.self _), fun h m hm => ?_⟩
  cases hm
  exact h

@[simp] theorem list_iff : HasShortIntegers (.list values) ↔ ∀ v ∈ values, v.HasShortIntegers := by
  refine ⟨fun h v hv n hn => h n (.list hv hn), fun h n hn => ?_⟩
  cases hn with
  | list hv hn => exact h _ hv n hn

@[simp] theorem tuple_iff : HasShortIntegers (.tuple values) ↔ ∀ v ∈ values, v.HasShortIntegers := by
  refine ⟨fun h v hv n hn => h n (.tuple hv hn), fun h n hn => ?_⟩
  cases hn with
  | tuple hv hn => exact h _ hv n hn

@[simp] theorem mapping_iff :
    HasShortIntegers (.mapping entries) ↔ ∀ entry ∈ entries, entry.2.HasShortIntegers := by
  refine ⟨fun h entry hentry n hn => h n (.mapping hentry hn), fun h n hn => ?_⟩
  cases hn with
  | mapping hentry hn => exact h _ hentry n hn

theorem not_isOverlongInt (h : v.HasShortIntegers) : ¬v.IsOverlongInt := by
  rintro ⟨n, rfl, hn⟩
  rw [int_iff.1 h] at hn
  exact Bool.false_ne_true hn

/-- No field for a text is in the way of a reading. -/
theorem faults_readText (h : HasShortIntegers (.mapping entries)) (keys : List String) :
    (readText entries keys).faults = [] := by
  refine LuauLayout.faults_readText.2 fun v hv => ?_
  obtain ⟨⟨key, v'⟩, hfound, rfl⟩ := Option.map_eq_some_iff.1 hv
  exact (mapping_iff.1 h _ (mem_of_lookupFirst hfound)).not_isOverlongInt

end HasShortIntegers

end Value

/-! ### The faults of a reading -/

namespace FieldValue

variable {step : Step}

theorem fault?_below (field : FieldValue) :
    (field.below step).fault? =
      field.fault?.map fun f => { f with location := step :: f.location } := by
  rw [fault?, fault?, below]
  cases field.value.toNumber <;> rfl

theorem filterMap_fault?_below (fields : List FieldValue) :
    (fields.map (·.below step)).filterMap fault? =
      (fields.filterMap fault?).map fun f => { f with location := step :: f.location } := by
  rw [List.filterMap_map, List.map_filterMap]
  exact List.filterMap_congr fun field _ => fault?_below field

end FieldValue

open FieldValue (fault? filterMap_fault?_below)
open Value.HasShortIntegers (list_iff tuple_iff mapping_iff)

section Read

variable {entries : Entries} {α : Type}

/-- A reading that fails as the number of its value does reports the value. -/
theorem faults_readField {f : Value → Except Number.Overlong α} {default : α} {keys : List String}
    (hf : ∀ v e, f v = .error e ↔ v.toNumber = .error e) :
    (readField entries keys default f).faults = (fieldValues [keys] entries).filterMap fault? := by
  rw [readField, fieldValues, List.filterMap_cons]
  cases lookupFirst entries keys with
  | none => rfl
  | some found =>
    obtain ⟨key, v⟩ := found
    cases hv : f v with
    | error e => simp [Checked.ofExcept, fault?, hv, (hf v e).1 hv]
    | ok a =>
      cases hn : v.toNumber with
      | error e => simp [(hf v e).2 hn] at hv
      | ok n => simp [Checked.ofExcept, fault?, hv, hn]

theorem faults_readNumber_eq (key : String) :
    (readNumber entries key).faults = (fieldValues [[key]] entries).filterMap fault? := by
  rw [readNumber_eq]
  exact faults_readField fun _ _ => Iff.rfl

theorem faults_readOpacity_eq :
    (readOpacity entries).faults = (fieldValues [["opacity"]] entries).filterMap fault? := by
  rw [readOpacity_eq]
  exact faults_readField fun _ _ => map_eq_error_iff

theorem faults_readFontSize_eq :
    (readFontSize entries).faults =
      (fieldValues [["fontSize", "font_size"]] entries).filterMap fault? := by
  rw [readFontSize_eq]
  refine faults_readField fun v e => ?_
  by_cases hbare : v.isBare = true
  · have hnone : v.toNumber ≠ .error e := fun h =>
      isBare_of_isOverlongText (isOverlongText_iff.2 ⟨e, h⟩) hbare
    simp [hbare, hnone]
  · rw [if_neg hbare, map_eq_error_iff]

/-- The first of several fields is reported before the others. -/
theorem filterMap_fault?_fieldValues_cons (keys keys' : List String) (fields : List (List String)) :
    (fieldValues (keys :: keys' :: fields) entries).filterMap fault? =
      (fieldValues [keys] entries).filterMap fault? ++
        (fieldValues (keys' :: fields) entries).filterMap fault? := by
  rw [fieldValues, fieldValues, fieldValues, ← List.filterMap_append, ← List.filterMap_append,
    List.singleton_append]

theorem Canvas.faults_read :
    (Canvas.read entries).faults = (fieldValues numberKeys entries).filterMap fault? := by
  rw [numberKeys, filterMap_fault?_fieldValues_cons, ← faults_readNumber_eq,
    ← faults_readNumber_eq]
  rfl

theorem Item.faults_read (h : Value.HasShortIntegers (.mapping entries)) :
    (Item.read entries).faults = (fieldValues numberKeys entries).filterMap fault? := by
  simp only [Item.read, Checked.faults_seq, Checked.faults_map, Checked.faults_pure,
    h.faults_readText, List.append_nil, List.nil_append, List.append_assoc, numberKeys,
    filterMap_fault?_fieldValues_cons, faults_readNumber_eq, faults_readOpacity_eq,
    faults_readFontSize_eq]

theorem Item.faults_ofEntry {v : Value} (h : v.HasShortIntegers) :
    (ofEntry v).faults = (Layout.entryNumbers v).filterMap fault? := by
  cases v with
  | mapping fields => exact faults_read h
  | _ => rfl

end Read

namespace Checked

variable {α : Type}

theorem faults_sequence (l : List (Checked α)) : (sequence l).faults = l.flatMap (·.faults) := by
  induction l with
  | nil => rfl
  | cons a rest ih =>
    rw [List.flatMap_cons, ← ih]
    rfl

end Checked

namespace Layout

variable {entries : Entries}

theorem faults_readCanvas (entries : Entries) :
    (readCanvas entries).faults = (canvasNumbers entries).filterMap fault? := by
  rw [readCanvas, canvasNumbers]
  cases lookupFirst entries ["canvasSize", "canvas_size"] with
  | none => rfl
  | some found =>
    obtain ⟨key, v⟩ := found
    cases v with
    | mapping fields =>
      dsimp only
      rw [filterMap_fault?_below, ← Canvas.faults_read]
      rfl
    | _ => rfl

theorem hasShortIntegers_of_mem_itemEntries (h : Value.HasShortIntegers (.mapping entries))
    {v : Value} (hv : v ∈ itemEntries entries) : v.HasShortIntegers := by
  rw [itemEntries] at hv
  split at hv
  · rename_i hitems
    exact list_iff.1 (mapping_iff.1 h _ (Value.mem_of_lookup hitems)) v hv
  · rename_i hitems
    exact tuple_iff.1 (mapping_iff.1 h _ (Value.mem_of_lookup hitems)) v hv
  · cases hv

theorem faults_readItems (h : Value.HasShortIntegers (.mapping entries)) :
    (readItems entries).faults = (itemNumbers entries).filterMap fault? := by
  rw [readItems, itemNumbers, filterMap_fault?_below, Checked.under, Checked.faults_sequence,
    List.filterMap_flatMap, List.mapIdx_eq_zipIdx_map, List.flatMap_map]
  refine congrArg _ (List.flatMap_congr fun e he => ?_)
  have hentry := hasShortIntegers_of_mem_itemEntries h (List.fst_mem_of_mem_zipIdx he)
  rw [filterMap_fault?_below, ← Item.faults_ofEntry hentry]
  rfl

theorem faults_read (h : Value.HasShortIntegers (.mapping entries)) :
    (read entries).faults = (numberFields entries).filterMap fault? := by
  rw [numberFields, List.filterMap_append, ← faults_readCanvas, ← faults_readItems h]
  rfl

end Layout

/-! ### Reported fields -/

instance : DecidablePred Value.IsOverlongText := fun v =>
  decidable_of_iff (v.toNumber.isOk = false) <| by
    rw [isOverlongText_iff]
    cases v.toNumber <;> simp [Except.isOk, Except.toBool]

/-- The fault is located where the field is, which holds a numeral of too many digits, and it tells how
many these are. -/
def FieldFault.Reports (fault : FieldFault) (field : FieldValue) : Prop :=
  fault.location = field.location ∧ ∃ s count, field.value = .text s ∧
    Number.IsOverlongNumeral s count ∧ fault.cause = .numeral count

/-- Faults that report some fields are located where the fields are. -/
theorem FieldFault.map_location_of_reports {faults : List FieldFault} {fields : List FieldValue}
    (h : List.Forall₂ Reports faults fields) :
    faults.map (·.location) = fields.map (·.location) := by
  induction h with
  | nil => rfl
  | cons hreports _ ih => rw [List.map_cons, List.map_cons, ih, hreports.1]

namespace FieldValue

theorem fault?_eq_none_iff {field : FieldValue} :
    field.fault? = none ↔ ¬field.value.IsOverlongText := by
  rw [fault?, isOverlongText_iff]
  cases field.value.toNumber <;> simp

theorem reports_of_fault? {field : FieldValue} {fault : FieldFault}
    (h : field.fault? = some fault) : fault.Reports field := by
  rw [fault?] at h
  split at h
  · cases h
  · rename_i e he
    obtain rfl := Option.some.inj h
    obtain ⟨s, count, hs, rfl, hoverlong⟩ := Value.toNumber_eq_error_iff.1 he
    exact ⟨rfl, s, count, hs, hoverlong, rfl⟩

/-- The faults of some fields report those of them that hold numerals of too many digits, in order. -/
theorem forall₂_reports (fields : List FieldValue) :
    List.Forall₂ FieldFault.Reports (fields.filterMap fault?)
      (fields.filter fun field => field.value.IsOverlongText) := by
  induction fields with
  | nil => exact .nil
  | cons field rest ih =>
    cases hfault : field.fault? with
    | none =>
      rw [List.filterMap_cons_none hfault,
        List.filter_cons_of_neg (by simpa using fault?_eq_none_iff.1 hfault)]
      exact ih
    | some fault =>
      have hoverlong : field.value.IsOverlongText := by
        by_contra hnot
        rw [fault?_eq_none_iff.2 hnot] at hfault
        cases hfault
      rw [List.filterMap_cons_some hfault, List.filter_cons_of_pos (by simpa using hoverlong)]
      exact .cons (reports_of_fault? hfault) ih

end FieldValue

namespace Layout

theorem ofValue_mapping_eq_error_iff {entries : Entries} {faults : List FieldFault} :
    ofValue (.mapping entries) = .error faults ↔
      (read entries).faults ≠ [] ∧ (read entries).faults = faults := by
  rw [ofValue, Checked.toExcept]
  cases (read entries).faults with
  | nil => simp
  | cons fault rest => simp

/-- A mapping without whole numbers of too many digits has no reading exactly if one of its numeric
fields holds a numeral of too many digits, and then all of these fields are reported, in order. -/
theorem ofValue_mapping_reports (entries : Entries) (h : Value.HasShortIntegers (.mapping entries)) :
    ((∃ faults, ofValue (.mapping entries) = .error faults) ↔
      ∃ field ∈ numberFields entries, field.value.IsOverlongText) ∧
      ∀ faults, ofValue (.mapping entries) = .error faults →
        List.Forall₂ FieldFault.Reports faults
          ((numberFields entries).filter fun field => field.value.IsOverlongText) := by
  simp only [ofValue_mapping_eq_error_iff, faults_read h]
  constructor
  · simp only [exists_and_left, exists_eq', and_true, ne_eq, List.filterMap_eq_nil_iff,
      FieldValue.fault?_eq_none_iff, not_forall, not_not, exists_prop]
  · rintro faults ⟨-, rfl⟩
    exact FieldValue.forall₂_reports (numberFields entries)

/-- A hidden item is read too, and each field is reported under the key that it came under. -/
theorem ofValue_mapping_reports_keys :
    let digits := String.ofList (List.replicate 4301 '8')
    let entries : Entries := [
      ("items", .tuple [.text digits, .mapping [("font_size", .text digits), ("w", .int 0),
        ("export", .bool false), ("x", .text digits)]]),
      ("canvas_size", .mapping [("w", .text "7"), ("h", .text digits)])]
    Value.HasShortIntegers (.mapping entries) ∧
      ∃ faults, ofValue (.mapping entries) = .error faults ∧
        faults.map (·.location) = [[.key "canvas_size", .key "h"],
          [.key "items", .index 1, .key "x"], [.key "items", .index 1, .key "font_size"]] := by
  intro digits entries
  have hdigits : digits.toList = List.replicate 4301 '8' := String.toList_ofList
  have hoverlong : (Value.text digits).IsOverlongText := by
    refine ⟨_, _, rfl, Number.isOverlongNumeral_of_digits (fun c hc => ?_) ?_⟩
    · rw [hdigits] at hc
      obtain rfl := (List.mem_replicate.1 hc).2
      decide
    · rw [hdigits, List.length_replicate]
      decide
  clear_value digits
  have hshort : Value.HasShortIntegers (.mapping entries) := by
    simp [entries, show (Number.int 0).isOverlong = false from Number.isOverlong_zero]
  have hfields : numberFields entries = [
      ⟨[.key "canvas_size", .key "w"], .text "7"⟩,
      ⟨[.key "canvas_size", .key "h"], .text digits⟩,
      ⟨[.key "items", .index 1, .key "x"], .text digits⟩,
      ⟨[.key "items", .index 1, .key "w"], .int 0⟩,
      ⟨[.key "items", .index 1, .key "font_size"], .text digits⟩] := rfl
  have hreports := ofValue_mapping_reports entries hshort
  obtain ⟨faults, hfaults⟩ := hreports.1.2 ⟨⟨[.key "canvas_size", .key "h"], .text digits⟩,
    by simp [hfields], hoverlong⟩
  refine ⟨hshort, faults, hfaults, ?_⟩
  have hlisted := hreports.2 faults hfaults
  have hseven : ¬(Value.text "7").IsOverlongText := by decide
  have hzero : ¬(Value.int 0).IsOverlongText := by decide
  simp only [hfields, List.filter_cons, hoverlong, hseven, hzero, decide_true, decide_false,
    if_true, Bool.false_eq_true, if_false, List.filter_nil] at hlisted
  exact FieldFault.map_location_of_reports hlisted

end Layout

end LuauLayout
