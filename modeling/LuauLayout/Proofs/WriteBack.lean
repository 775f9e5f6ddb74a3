import LuauLayout.Export.OfValue
import LuauLayout.Proofs.ReadItems

/-! Layouts written back.  A layout is written as a mapping of its fields, without those that it lacks,
and reads back as itself, whole numbers and doubles apart, but for sizes of the text that are zero: such
a size counts as none.  So a layout that was read from a value reads back as itself exactly if it has no
such size, and then the value, the layout and the mapping have the same exports. -/

namespace LuauLayout

open Value (Entries lookup lookupFirst)

/-! ### Writing -/

def Number.toValue : Number → Value
  | int n => .int n
  | float x => .float (.finite x)

namespace Value

/-- The entries of the fields that are present. -/
def present (fields : List (String × Option Value)) : Entries :=
  fields.filterMap fun f => f.2.map (f.1, ·)

end Value

def Canvas.fields (canvas : Canvas) : List (String × Option Value) :=
  [("w", some canvas.w.toValue), ("h", some canvas.h.toValue)]

def Item.fields (item : Item) : List (String × Option Value) :=
  [("type", item.type.map .text), ("name", item.name.map .text), ("x", some item.x.toValue),
    ("y", some item.y.toValue), ("w", some item.w.toValue), ("h", some item.h.toValue),
    ("fill", item.fill.map .text), ("opacity", item.opacity.map Number.toValue),
    ("text", item.text.map .text), ("text_color", item.textColor.map .text),
    ("font_size", item.fontSize.map Number.toValue), ("image_id", item.imageId.map .text),
    ("export", some (.bool item.exported)), ("role", item.role.map .text)]

namespace Layout

def fields (layout : Layout) : List (String × Option Value) :=
  [("canvas_size", layout.canvas.map fun canvas => .mapping (Value.present canvas.fields)),
    ("items", some (.list (layout.items.map fun item => .mapping (Value.present item.fields))))]

/-- The mapping of a layout. -/
def toValue (layout : Layout) : Value := .mapping (Value.present layout.fields)

end Layout

/-! ### Looking fields up -/

namespace Value

variable {fields : List (String × Option Value)} {entries : Entries} {key : String}
  {field : Option Value}

theorem present_cons (name : String) (field : Option Value) (fields : List (String × Option Value)) :
    present ((name, field) :: fields) = (field.map (name, ·)).toList ++ present fields := by
  cases field <;> rfl

theorem lookup_present_of_not_mem (h : key ∉ fields.map Prod.fst) :
    lookup key (present fields) = none := by
  induction fields with
  | nil => rfl
  | cons f rest ih =>
    obtain ⟨name, field⟩ := f
    rw [List.map_cons, List.mem_cons, not_or] at h
    rw [present_cons]
    cases field with
    | none => exact ih h.2
    | some v =>
      show (lookup key (present rest)).or (if name = key then some v else none) = none
      rw [ih h.2, if_neg (Ne.symm h.1)]
      rfl

/-- Where no two fields share a name, a field is found under its own. -/
theorem lookup_present (hnodup : (fields.map Prod.fst).Nodup) (h : (key, field) ∈ fields) :
    lookup key (present fields) = field := by
  induction fields with
  | nil => cases h
  | cons f rest ih =>
    obtain ⟨name, first⟩ := f
    rw [List.map_cons, List.nodup_cons] at hnodup
    rw [present_cons]
    rcases List.mem_cons.1 h with heq | hrest
    · obtain ⟨rfl, rfl⟩ := Prod.mk.inj heq
      have hnone := lookup_present_of_not_mem hnodup.1
      cases field with
      | none => exact hnone
      | some v =>
        show (lookup key (present rest)).or (if key = key then some v else none) = some v
        rw [hnone, if_pos rfl]
        rfl
    · have hsome := ih hnodup.2 hrest
      have hne : name ≠ key := by
        rintro rfl
        exact hnodup.1 (List.mem_map.2 ⟨_, hrest, rfl⟩)
      cases first with
      | none => exact hsome
      | some v =>
        show (lookup key (present rest)).or (if name = key then some v else none) = field
        rw [hsome, if_neg hne, Option.or_none]

theorem lookupFirst_of_lookup (h : lookup key entries = field) :
    lookupFirst entries [key] = field.map (key, ·) := by
  rw [lookupFirst_singleton, h]

/-- A key that is absent lets the next one count. -/
theorem lookupFirst_of_none {other : String} (hnone : lookup other entries = none)
    (h : lookup key entries = field) : lookupFirst entries [other, key] = field.map (key, ·) := by
  rw [← lookupFirst_of_lookup h, lookupFirst, List.findSome?_cons, hnone]
  rfl

end Value

/-! ### Reading single fields back -/

namespace Number

theorem toNumber_toValue (n : Number) : n.toValue.toNumber = .ok n := by
  cases n <;> rfl

theorem isBare_toValue (n : Number) : n.toValue.isBare = n.isZero := by
  have hpos := one_pos
  rw [Bool.eq_iff_iff]
  cases n with
  | int n =>
    show (n == 0) = true ↔ (n * (Binary64.one : Int) == 0) = true
    rw [beq_iff_eq, beq_iff_eq, Int.mul_eq_zero]
    omega
  | float x =>
    show (x.units == 0) = true ↔ (x.toUnits == 0) = true
    rw [beq_iff_eq, beq_iff_eq, Binary64.toUnits]
    split <;> omega

end Number

section Field

variable {entries : Entries} {key : String} {keys : List String}

theorem readNumber_of_lookup {n : Number} (h : lookup key entries = some n.toValue) :
    readNumber entries key = pure n := by
  rw [readNumber, h]
  show Checked.ofExcept key 0 n.toValue.toNumber = pure n
  rw [Number.toNumber_toValue]
  rfl

theorem readText_of_lookup {field : Option String} (hne : field ≠ some "")
    (h : lookupFirst entries keys = (field.map Value.text).map (key, ·)) :
    readText entries keys = pure field := by
  cases field with
  | none =>
    rw [readText, h]
    rfl
  | some s =>
    have hs : s ≠ "" := fun hs => hne (congrArg some hs)
    have htext : (Value.text s).toText = .ok (some s) := by
      simp [Value.toText, Value.isOverlong, Value.toText?, hs]
    rw [readText, h]
    show Checked.ofExcept key none (Value.text s).toText = pure (some s)
    rw [htext]
    rfl

theorem readOpacity_of_lookup {opacity : Option Number}
    (hclamp : ∀ n, opacity = some n → n.clampToOne = n)
    (h : lookup "opacity" entries = opacity.map Number.toValue) :
    readOpacity entries = pure opacity := by
  cases opacity with
  | none =>
    rw [readOpacity, h]
    rfl
  | some n =>
    rw [readOpacity, h]
    show Checked.ofExcept "opacity" none ((some ·.clampToOne) <$> n.toValue.toNumber) = _
    rw [Number.toNumber_toValue]
    show (⟨some n.clampToOne, []⟩ : Checked (Option Number)) = ⟨some n, []⟩
    rw [hclamp n rfl]

/-- A size of zero reads back as none. -/
theorem readFontSize_of_lookup {size : Option Number}
    (h : lookupFirst entries ["fontSize", "font_size"] =
      (size.map Number.toValue).map (key, ·)) :
    readFontSize entries = pure (size.filter fun n => !n.isZero) := by
  cases size with
  | none =>
    rw [readFontSize, h]
    rfl
  | some n =>
    rw [readFontSize, h]
    show (if n.toValue.isBare = true then pure none
      else Checked.ofExcept key none (some <$> n.toValue.toNumber)) = _
    rw [Number.isBare_toValue, Number.toNumber_toValue, Option.filter_some]
    cases n.isZero <;> rfl

end Field

/-! ### Reading back -/

theorem Canvas.read_fields (canvas : Canvas) : Canvas.read (Value.present canvas.fields) = pure canvas := by
  have hnodup : (canvas.fields.map Prod.fst).Nodup := by
    show ["w", "h"].Nodup
    decide
  have hnumber : ∀ key (n : Number), (key, some n.toValue) ∈ canvas.fields →
      readNumber (Value.present canvas.fields) key = pure n := fun key n h =>
    readNumber_of_lookup (Value.lookup_present hnodup h)
  rw [read, hnumber "w" canvas.w (by simp [fields]), hnumber "h" canvas.h (by simp [fields])]
  rfl

namespace Item

/-- The item without a size of its text that is zero. -/
def withoutZeroSize (item : Item) : Item :=
  { item with fontSize := item.fontSize.filter fun n => !n.isZero }

theorem withoutZeroSize_eq_self_iff {item : Item} :
    item.withoutZeroSize = item ↔ ∀ n, item.fontSize = some n → ¬n.isZero = true := by
  obtain ⟨_, _, _, _, _, _, _, _, _, _, size, _, _, _⟩ := item
  cases size <;> simp [withoutZeroSize, Option.filter]

theorem nodup_fields (item : Item) : (item.fields.map Prod.fst).Nodup := by
  show ["type", "name", "x", "y", "w", "h", "fill", "opacity", "text", "text_color", "font_size",
    "image_id", "export", "role"].Nodup
  decide

section

variable {item : Item} {key : String}

theorem lookup_fields {field : Option Value} (h : (key, field) ∈ item.fields) :
    lookup key (Value.present item.fields) = field :=
  Value.lookup_present item.nodup_fields h

theorem readNumber_fields (key : String) (n : Number) (h : (key, some n.toValue) ∈ item.fields) :
    readNumber (Value.present item.fields) key = pure n :=
  readNumber_of_lookup (lookup_fields h)

theorem readText_fields (hnormal : item.IsNormal) (key : String) (field : Option String)
    (htext : field ∈ item.texts) (h : (key, field.map Value.text) ∈ item.fields) :
    readText (Value.present item.fields) [key] = pure field :=
  readText_of_lookup (hnormal.texts field htext) (Value.lookupFirst_of_lookup (lookup_fields h))

/-- A text is found although another key would count before its own. -/
theorem readText_fields_of_not_mem (hnormal : item.IsNormal) {other : String}
    (hother : other ∉ item.fields.map Prod.fst) {field : Option String}
    (htext : field ∈ item.texts) (h : (key, field.map Value.text) ∈ item.fields) :
    readText (Value.present item.fields) [other, key] = pure field :=
  readText_of_lookup (hnormal.texts field htext)
    (Value.lookupFirst_of_none (Value.lookup_present_of_not_mem hother) (lookup_fields h))

theorem readFontSize_fields (item : Item) :
    readFontSize (Value.present item.fields) =
      pure (item.fontSize.filter fun n => !n.isZero) := by
  have habsent : lookup "fontSize" (Value.present item.fields) = none :=
    Value.lookup_present_of_not_mem (by simp [fields])
  have hsize : lookup "font_size" (Value.present item.fields) = item.fontSize.map Number.toValue :=
    lookup_fields (by simp [fields])
  exact readFontSize_of_lookup (Value.lookupFirst_of_none habsent hsize)

theorem exported_fields (item : Item) :
    (!(lookup "export" (Value.present item.fields)).any Value.isFalse) = item.exported := by
  have hexport : lookup "export" (Value.present item.fields) = some (.bool item.exported) :=
    lookup_fields (by simp [fields])
  rw [hexport]
  exact Bool.not_not _

theorem read_fields (h : item.IsNormal) :
    read (Value.present item.fields) = pure item.withoutZeroSize := by
  have hopacity : readOpacity (Value.present item.fields) = pure item.opacity :=
    readOpacity_of_lookup h.opacity (lookup_fields (by simp [fields]))
  have hcolor : readText (Value.present item.fields) ["textColor", "text_color"] =
      pure item.textColor :=
    readText_fields_of_not_mem h (by simp [fields]) (by simp [texts]) (by simp [fields])
  have himage : readText (Value.present item.fields) ["imageId", "image_id"] = pure item.imageId :=
    readText_fields_of_not_mem h (by simp [fields]) (by simp [texts]) (by simp [fields])
  rw [read, readText_fields h "type" item.type (by simp [texts]) (by simp [fields]),
    readText_fields h "name" item.name (by simp [texts]) (by simp [fields]),
    readNumber_fields "x" item.x (by simp [fields]),
    readNumber_fields "y" item.y (by simp [fields]),
    readNumber_fields "w" item.w (by simp [fields]),
    readNumber_fields "h" item.h (by simp [fields]),
    readText_fields h "fill" item.fill (by simp [texts]) (by simp [fields]), hopacity,
    readText_fields h "text" item.text (by simp [texts]) (by simp [fields]), hcolor,
    item.readFontSize_fields, himage, item.exported_fields,
    readText_fields h "role" item.role (by simp [texts]) (by simp [fields])]
  rfl

end

end Item

/-! ### Layouts -/

/-- The items that a value holds as items, and not as mappings of their fields. -/
def Value.heldItems : Value → List Item
  | .layout l => l.items
  | .mapping entries => (Layout.itemEntries entries).filterMap fun
    | .item i => some i
    | _ => none
  | _ => []

namespace Layout

variable {v : Value} {layout : Layout}

/-- An item of a layout is one that its value holds, or some mapping reads as it. -/
theorem mem_items_of_ofValue (h : ofValue v = .ok layout) {item : Item} (hitem : item ∈ layout.items) :
    item ∈ v.heldItems ∨ ∃ entries, (Item.read entries).toExcept = .ok item := by
  cases v with
  | layout l =>
    obtain rfl := Except.ok.inj h
    exact Or.inl hitem
  | mapping entries =>
    obtain ⟨hfaults, rfl⟩ := ofValue_mapping_eq_ok_iff.1 h
    have hentries := faults_readItems_eq_nil_iff.1 (faults_read_eq_nil_iff.1 hfaults).2
    have hitem : item ∈ (readItems entries).value := hitem
    rw [value_readItems] at hitem
    obtain ⟨entry, hentry, rfl⟩ := List.mem_map.1 hitem
    cases entry with
    | item i => exact Or.inl (List.mem_filterMap.2 ⟨Value.item i, hentry, rfl⟩)
    | mapping fields =>
      refine Or.inr ⟨fields, ?_⟩
      have hfaults : (Item.read fields).faults = [] := hentries _ hentry
      rw [Checked.toExcept, hfaults]
      rfl
    | _ => exact Or.inr ⟨[], rfl⟩
  | _ =>
    obtain rfl := Except.ok.inj h
    cases hitem

theorem isNormal_of_ofValue
    (hheld : ∀ item ∈ v.heldItems, ∃ entries, (Item.read entries).toExcept = .ok item)
    (h : ofValue v = .ok layout) : ∀ item ∈ layout.items, item.IsNormal := by
  intro item hitem
  obtain ⟨entries, hread⟩ := (mem_items_of_ofValue h hitem).elim (hheld item) id
  obtain ⟨hfaults, rfl⟩ := Checked.toExcept_eq_ok_iff.1 hread
  exact (Item.isReadFrom_read hfaults).isNormal

theorem readCanvas_fields (layout : Layout) :
    readCanvas (Value.present layout.fields) = pure layout.canvas := by
  have hfound : lookupFirst (Value.present layout.fields) ["canvasSize", "canvas_size"] =
      (layout.canvas.map fun canvas => Value.mapping (Value.present canvas.fields)).map
        ("canvas_size", ·) := by
    refine Value.lookupFirst_of_none (Value.lookup_present_of_not_mem ?_)
      (Value.lookup_present ?_ List.mem_cons_self)
    · simp [fields]
    · simp [fields]
  rw [readCanvas, hfound]
  cases layout.canvas with
  | none => rfl
  | some canvas =>
    show (some <$> Canvas.read (Value.present canvas.fields)).under (.key "canvas_size") = _
    rw [canvas.read_fields]
    rfl

theorem itemEntries_fields (layout : Layout) :
    itemEntries (Value.present layout.fields) =
      layout.items.map fun item => .mapping (Value.present item.fields) := by
  have hfound : lookup "items" (Value.present layout.fields) =
      some (.list (layout.items.map fun item => .mapping (Value.present item.fields))) :=
    Value.lookup_present (by simp [fields]) (by simp [fields])
  rw [itemEntries, hfound]

/-- A layout of items as readings leave them reads back as itself without sizes that are zero. -/
theorem ofValue_toValue (h : ∀ item ∈ layout.items, item.IsNormal) :
    ofValue layout.toValue = .ok { layout with items := layout.items.map Item.withoutZeroSize } := by
  have hentry : ∀ item ∈ layout.items,
      Item.ofEntry (.mapping (Value.present item.fields)) = pure item.withoutZeroSize :=
    fun item hitem => Item.read_fields (h item hitem)
  have hfaults : (readItems (Value.present layout.fields)).faults = [] := by
    rw [faults_readItems_eq_nil_iff, itemEntries_fields]
    intro v hv
    obtain ⟨item, hitem, rfl⟩ := List.mem_map.1 hv
    rw [hentry item hitem]
    rfl
  have hvalue : (readItems (Value.present layout.fields)).value =
      layout.items.map Item.withoutZeroSize := by
    rw [value_readItems, itemEntries_fields, List.map_map]
    refine List.map_congr_left fun item hitem => ?_
    exact congrArg Checked.value (hentry item hitem)
  refine ofValue_mapping_eq_ok_iff.2 ⟨?_, ?_⟩
  · rw [faults_read_eq_nil_iff, readCanvas_fields]
    exact ⟨rfl, hfaults⟩
  · show Layout.mk (readCanvas _).value (readItems _).value = _
    rw [readCanvas_fields, hvalue]
    rfl

/-- A layout that was read from a value, of which every item it held had been read too, reads back from
its mapping as itself exactly if no size of a text in it is zero.  Then the value, the layout and the
mapping have the same exports. -/
theorem ofValue_toValue_eq_self_iff
    (hheld : ∀ item ∈ v.heldItems, ∃ entries, (Item.read entries).toExcept = .ok item)
    (h : ofValue v = .ok layout) :
    (ofValue layout.toValue = .ok layout ↔
      ∀ item ∈ layout.items, ∀ n, item.fontSize = some n → ¬n.isZero = true) ∧
      ((∀ item ∈ layout.items, ∀ n, item.fontSize = some n → ¬n.isZero = true) →
        ∀ options, Export.ofValue v options = Export.ofValue (.layout layout) options ∧
          Export.ofValue layout.toValue options = Export.ofValue (.layout layout) options) := by
  have hback := ofValue_toValue (isNormal_of_ofValue hheld h)
  have hiff : ofValue layout.toValue = .ok layout ↔
      ∀ item ∈ layout.items, ∀ n, item.fontSize = some n → ¬n.isZero = true := by
    have hitems : layout.items.map Item.withoutZeroSize = layout.items ↔
        ∀ item ∈ layout.items, item.withoutZeroSize = item := by
      conv_lhs => rhs; rw [← List.map_id layout.items]
      exact List.map_inj_left
    rw [hback, Except.ok.injEq]
    simp only [← Item.withoutZeroSize_eq_self_iff, ← hitems]
    obtain ⟨canvas, items⟩ := layout
    simp
  refine ⟨hiff, fun hsizes options => ⟨?_, ?_⟩⟩
  · rw [Export.ofValue, h]
    rfl
  · rw [Export.ofValue, hiff.2 hsizes]
    rfl

/-- A size that is no numeral is zero and lost; with another size the layout of an item, a mapping and
an entry that is neither reads back. -/
theorem ofValue_toValue_of_sizes :
    let held : Item := { name := some "A", opacity := some 1 }
    let value (size : Value) : Value :=
      .mapping [("items", .list [.item held, .mapping [("name", .int 7), ("fontSize", size)], .null])]
    let layout (size : Number) : Layout :=
      ⟨none, [held, { name := some "7", fontSize := some size }, {}]⟩
    (∀ size, ∀ item ∈ (value size).heldItems,
        ∃ entries, (Item.read entries).toExcept = .ok item) ∧
      ofValue (value (.text "abc")) = .ok (layout 0) ∧
      ¬ofValue (layout 0).toValue = .ok (layout 0) ∧
      ofValue (value (.text "12")) = .ok (layout 12) ∧
      ofValue (layout 12).toValue = .ok (layout 12) ∧
      Export.ofValue (value (.text "12")) {} = Export.ofValue (layout 12).toValue {} := by
  intro held value layout
  have hheld : ∀ size, ∀ item ∈ (value size).heldItems,
      ∃ entries, (Item.read entries).toExcept = .ok item := by
    intro size item hitem
    obtain rfl : item = held := List.mem_singleton.1 hitem
    exact ⟨[("name", .text "A"), ("opacity", .int 9)], by decide +kernel⟩
  have hzero : ofValue (value (.text "abc")) = .ok (layout 0) := by decide +kernel
  have htwelve : ofValue (value (.text "12")) = .ok (layout 12) := by decide +kernel
  obtain ⟨hlost, -⟩ := ofValue_toValue_eq_self_iff (hheld _) hzero
  obtain ⟨hkept, hexports⟩ := ofValue_toValue_eq_self_iff (hheld _) htwelve
  have hsizes : ∀ item ∈ (layout 12).items, ∀ n, item.fontSize = some n → ¬n.isZero = true := by
    decide +kernel
  obtain ⟨hvalue, hmapping⟩ := hexports hsizes {}
  refine ⟨hheld, hzero, fun hback => ?_, htwelve, hkept.2 hsizes, hvalue.trans hmapping.symm⟩
  exact hlost.1 hback _ (List.mem_cons_of_mem _ List.mem_cons_self) 0 rfl Value.isZero_zero

end Layout

end LuauLayout
