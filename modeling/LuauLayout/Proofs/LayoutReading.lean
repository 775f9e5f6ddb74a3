import LuauLayout.Proofs.FieldReading
import Mathlib.Data.List.Forall2
import Mathlib.Tactic.Tauto

/-! What a layout is read as: each entry of the list of items gives an item, a mapping is read field by
field, and whatever is missing or of the wrong kind stands for the default, from the layout itself down
to single fields.  A layout has no reading exactly if one of its fields has none. -/

namespace LuauLayout

open Value (Denotes DenotesText Entries lookupFirst under)

/-! ### What mappings stand for -/

structure Canvas.IsReadFrom (entries : Entries) (canvas : Canvas) : Prop where
  w : Holds Denotes 0 (under entries ["w"]) canvas.w
  h : Holds Denotes 0 (under entries ["h"]) canvas.h

structure Item.IsReadFrom (entries : Entries) (item : Item) : Prop where
  type : Holds DenotesText none (under entries ["type"]) item.type
  name : Holds DenotesText none (under entries ["name"]) item.name
  x : Holds Denotes 0 (under entries ["x"]) item.x
  y : Holds Denotes 0 (under entries ["y"]) item.y
  w : Holds Denotes 0 (under entries ["w"]) item.w
  h : Holds Denotes 0 (under entries ["h"]) item.h
  fill : Holds DenotesText none (under entries ["fill"]) item.fill
  opacity : Holds DenotesOpacity none (under entries ["opacity"]) item.opacity
  text : Holds DenotesText none (under entries ["text"]) item.text
  textColor : Holds DenotesText none (under entries ["textColor", "text_color"]) item.textColor
  fontSize : Holds DenotesFontSize none (under entries ["fontSize", "font_size"]) item.fontSize
  imageId : Holds DenotesText none (under entries ["imageId", "image_id"]) item.imageId
  exported : Holds DenotesExport true (under entries ["export"]) item.exported
  role : Holds DenotesText none (under entries ["role"]) item.role

/-- An item stands for itself, and a mapping for the item of its fields. -/
def DenotesItem (v : Value) (item : Item) : Prop :=
  v = .item item ∨ ∃ entries, v = .mapping entries ∧ item.IsReadFrom entries

def DenotesCanvas (v : Value) (canvas : Option Canvas) : Prop :=
  ∃ c, canvas = some c ∧ (v = .canvas c ∨ ∃ entries, v = .mapping entries ∧ c.IsReadFrom entries)

/-- A list or a tuple stands for an item for each of its entries, one of defaults where the entry
stands for none. -/
def DenotesItems (v : Value) (items : List Item) : Prop :=
  ∃ values, (v = .list values ∨ v = .tuple values) ∧
    List.Forall₂ (fun entry item => Holds DenotesItem {} (some entry) item) values items

structure Layout.IsReadFrom (entries : Entries) (layout : Layout) : Prop where
  canvas : Holds DenotesCanvas none (under entries ["canvasSize", "canvas_size"]) layout.canvas
  items : Holds DenotesItems [] (under entries ["items"]) layout.items

/-- A layout stands for itself, and a mapping for the layout of its fields. -/
def DenotesLayout (v : Value) (layout : Layout) : Prop :=
  v = .layout layout ∨ ∃ entries, v = .mapping entries ∧ layout.IsReadFrom entries

/-- No field under the first keys, which are for numbers, and none under the second ones, which are
for texts, has a whole number of too many digits. -/
def IsReadable (numberKeys textKeys : List (List String)) (entries : Entries) : Prop :=
  (∀ keys ∈ numberKeys, ∀ v, under entries keys = some v → ¬v.IsOverlongText) ∧
    ∀ keys ∈ textKeys, ∀ v, under entries keys = some v → ¬v.IsOverlongInt

def Canvas.IsReadable : Entries → Prop := LuauLayout.IsReadable [["w"], ["h"]] []

def Item.IsReadable : Entries → Prop :=
  LuauLayout.IsReadable
    [["x"], ["y"], ["w"], ["h"], ["opacity"], ["fontSize", "font_size"]]
    [["type"], ["name"], ["fill"], ["text"], ["textColor", "text_color"], ["imageId", "image_id"],
      ["role"]]

/-- Every mapping that describes the canvas or an item can be read. -/
def Layout.IsReadable (v : Value) : Prop :=
  ∀ entries, v = .mapping entries →
    (∀ fields, under entries ["canvasSize", "canvas_size"] = some (.mapping fields) →
      Canvas.IsReadable fields) ∧
    ∀ fields, .mapping fields ∈ Layout.itemEntries entries → Item.IsReadable fields

/-! ### Items, the canvas and the layout -/

namespace Checked

variable {α β : Type}

@[simp] theorem faults_map (f : α → β) (a : Checked α) : (f <$> a).faults = a.faults := rfl

@[simp] theorem faults_seq (f : Checked (α → β)) (a : Checked α) :
    (f <*> a).faults = f.faults ++ a.faults := rfl

@[simp] theorem faults_pure (a : α) : (pure a : Checked α).faults = [] := rfl

theorem faults_under_eq_nil_iff {step : Step} {a : Checked α} :
    (a.under step).faults = [] ↔ a.faults = [] := by
  rw [under, List.map_eq_nil_iff]

theorem value_under (step : Step) (a : Checked α) : (a.under step).value = a.value := rfl

theorem faults_sequence_eq_nil_iff {l : List (Checked α)} :
    (sequence l).faults = [] ↔ ∀ a ∈ l, a.faults = [] := by
  induction l with
  | nil => simp [sequence]
  | cons a rest ih => simp [sequence, ih]

theorem value_sequence (l : List (Checked α)) : (sequence l).value = l.map (·.value) := by
  induction l with
  | nil => rfl
  | cons a rest ih =>
    rw [List.map_cons, ← ih]
    rfl

theorem toExcept_eq_ok_iff {a : Checked α} {value : α} :
    a.toExcept = .ok value ↔ a.faults = [] ∧ a.value = value := by
  rw [toExcept]
  cases a.faults with
  | nil => simp
  | cons fault rest => simp

end Checked

theorem Canvas.faults_read_eq_nil_iff {entries : Entries} :
    (Canvas.read entries).faults = [] ↔ Canvas.IsReadable entries := by
  simp only [read, Checked.faults_seq, Checked.faults_map, List.append_eq_nil_iff, faults_readNumber,
    IsReadable, LuauLayout.IsReadable, List.forall_mem_cons, List.not_mem_nil, false_imp_iff,
    implies_true, and_true]

theorem Canvas.isReadFrom_read {entries : Entries} (h : (Canvas.read entries).faults = []) :
    (Canvas.read entries).value.IsReadFrom entries := by
  simp only [read, Checked.faults_seq, Checked.faults_map, List.append_eq_nil_iff] at h
  exact ⟨holds_readNumber h.1, holds_readNumber h.2⟩

namespace Item

variable {entries : Entries} {v : Value}

theorem faults_read_eq_nil_iff : (read entries).faults = [] ↔ IsReadable entries := by
  simp only [read, Checked.faults_seq, Checked.faults_map, Checked.faults_pure,
    List.append_eq_nil_iff, faults_readNumber, faults_readText, faults_readOpacity,
    faults_readFontSize, IsReadable, LuauLayout.IsReadable, List.forall_mem_cons, List.not_mem_nil,
    false_imp_iff, implies_true, and_true]
  tauto

theorem isReadFrom_read (h : (read entries).faults = []) : (read entries).value.IsReadFrom entries := by
  simp only [read, Checked.faults_seq, Checked.faults_map, Checked.faults_pure,
    List.append_eq_nil_iff, and_true, and_assoc] at h
  obtain ⟨type, name, x, y, w, h, fill, opacity, text, textColor, fontSize, imageId, role⟩ := h
  exact {
    type := holds_readText type
    name := holds_readText name
    x := holds_readNumber x
    y := holds_readNumber y
    w := holds_readNumber w
    h := holds_readNumber h
    fill := holds_readText fill
    opacity := holds_readOpacity opacity
    text := holds_readText text
    textColor := holds_readText textColor
    fontSize := holds_readFontSize fontSize
    imageId := holds_readText imageId
    exported := holds_readExport
    role := holds_readText role }

theorem faults_ofEntry_eq_nil_iff :
    (ofEntry v).faults = [] ↔ ∀ entries, v = .mapping entries → IsReadable entries := by
  cases v with
  | mapping entries =>
    rw [ofEntry, faults_read_eq_nil_iff]
    constructor
    · rintro h _ ⟨⟩
      exact h
    · exact fun h => h entries rfl
  | _ => simp [ofEntry]

theorem holds_ofEntry (h : (ofEntry v).faults = []) :
    Holds DenotesItem {} (some v) (ofEntry v).value := by
  cases v with
  | item i => exact .of_denotes (Or.inl rfl)
  | mapping entries => exact .of_denotes (Or.inr ⟨entries, rfl, isReadFrom_read h⟩)
  | _ =>
    refine .of_not_denotes fun a ha => ?_
    rcases ha with ha | ⟨entries, ha, -⟩ <;> cases ha

end Item

namespace Layout

variable {entries : Entries} {v : Value}

theorem faults_readCanvas_eq_nil_iff :
    (readCanvas entries).faults = [] ↔
      ∀ fields, under entries ["canvasSize", "canvas_size"] = some (.mapping fields) →
        Canvas.IsReadable fields := by
  rw [readCanvas, under]
  cases lookupFirst entries ["canvasSize", "canvas_size"] with
  | none => simp
  | some entry =>
    obtain ⟨key, v⟩ := entry
    cases v with
    | mapping fields =>
      rw [Checked.faults_under_eq_nil_iff, Checked.faults_map, Canvas.faults_read_eq_nil_iff]
      constructor
      · rintro h _ ⟨⟩
        exact h
      · exact fun h => h fields rfl
    | _ => simp

theorem holds_readCanvas (h : (readCanvas entries).faults = []) :
    Holds DenotesCanvas none (under entries ["canvasSize", "canvas_size"])
      (readCanvas entries).value := by
  rw [readCanvas, under] at *
  cases hfound : lookupFirst entries ["canvasSize", "canvas_size"] with
  | none => exact .of_none
  | some entry =>
    obtain ⟨key, v⟩ := entry
    rw [hfound] at h
    cases v with
    | canvas c => exact .of_denotes ⟨c, rfl, Or.inl rfl⟩
    | mapping fields =>
      rw [Checked.faults_under_eq_nil_iff, Checked.faults_map] at h
      exact .of_denotes ⟨_, rfl, Or.inr ⟨fields, rfl, Canvas.isReadFrom_read h⟩⟩
    | _ =>
      refine .of_not_denotes fun a ha => ?_
      rcases ha with ⟨c, -, ha | ⟨fields, ha, -⟩⟩ <;> cases ha

theorem faults_readItems_eq_nil_iff :
    (readItems entries).faults = [] ↔ ∀ v ∈ itemEntries entries, (Item.ofEntry v).faults = [] := by
  rw [readItems, Checked.faults_under_eq_nil_iff, Checked.faults_sequence_eq_nil_iff]
  simp only [List.mem_mapIdx, forall_exists_index]
  constructor
  · intro h v hv
    obtain ⟨i, hi, rfl⟩ := List.getElem_of_mem hv
    exact Checked.faults_under_eq_nil_iff.1 (h _ i hi rfl)
  · rintro h _ i hi rfl
    exact Checked.faults_under_eq_nil_iff.2 (h _ (List.getElem_mem hi))

theorem value_readItems :
    (readItems entries).value = (itemEntries entries).map fun v => (Item.ofEntry v).value := by
  rw [readItems, Checked.value_under, Checked.value_sequence]
  refine List.ext_getElem (by simp) fun i _ _ => ?_
  simp [Checked.value_under]

theorem holds_readItems (h : (readItems entries).faults = []) :
    Holds DenotesItems [] (under entries ["items"]) (readItems entries).value := by
  rw [faults_readItems_eq_nil_iff] at h
  rw [value_readItems, under, lookupFirst_singleton]
  have hitems : ∀ {values : List Value}, (∀ v ∈ values, (Item.ofEntry v).faults = []) →
      List.Forall₂ (fun entry item => Holds DenotesItem {} (some entry) item) values
        (values.map fun v => (Item.ofEntry v).value) := by
    intro values h
    rw [List.forall₂_map_right_iff, List.forall₂_same]
    exact fun v hv => Item.holds_ofEntry (h v hv)
  rw [itemEntries] at h ⊢
  cases hfound : Value.lookup "items" entries with
  | none => exact .of_none
  | some v =>
    rw [hfound] at h
    cases v with
    | list values => exact .of_denotes ⟨values, Or.inl rfl, hitems h⟩
    | tuple values => exact .of_denotes ⟨values, Or.inr rfl, hitems h⟩
    | _ =>
      refine .of_not_denotes fun a ha => ?_
      rcases ha with ⟨values, ha | ha, -⟩ <;> cases ha

theorem faults_read_eq_nil_iff :
    (read entries).faults = [] ↔
      (readCanvas entries).faults = [] ∧ (readItems entries).faults = [] := by
  rw [read, Checked.faults_seq, Checked.faults_map, List.append_eq_nil_iff]

theorem isReadable_mapping_iff : IsReadable (.mapping entries) ↔ (read entries).faults = [] := by
  rw [faults_read_eq_nil_iff, faults_readCanvas_eq_nil_iff, faults_readItems_eq_nil_iff]
  simp only [Item.faults_ofEntry_eq_nil_iff]
  constructor
  · intro h
    obtain ⟨hcanvas, hitems⟩ := h entries rfl
    refine ⟨hcanvas, ?_⟩
    rintro _ hv fields rfl
    exact hitems fields hv
  · rintro ⟨hcanvas, hitems⟩ _ ⟨⟩
    exact ⟨hcanvas, fun fields hv => hitems _ hv fields rfl⟩

theorem ofValue_mapping_eq_ok_iff {layout : Layout} :
    ofValue (.mapping entries) = .ok layout ↔
      (read entries).faults = [] ∧ (read entries).value = layout :=
  Checked.toExcept_eq_ok_iff

/-- A value is read as a layout unless a whole number of too many digits is in the way. -/
theorem exists_ofValue_eq_ok_iff : (∃ layout, ofValue v = .ok layout) ↔ IsReadable v := by
  cases v with
  | mapping entries =>
    rw [isReadable_mapping_iff]
    simp [ofValue_mapping_eq_ok_iff]
  | _ => simp [ofValue, IsReadable]

/-- What is read is what the value stands for, down to each field. -/
theorem holds_ofValue {layout : Layout} (h : ofValue v = .ok layout) :
    Holds DenotesLayout {} (some v) layout := by
  cases v with
  | layout l =>
    obtain rfl := Except.ok.inj h
    exact .of_denotes (Or.inl rfl)
  | mapping entries =>
    obtain ⟨hfaults, rfl⟩ := ofValue_mapping_eq_ok_iff.1 h
    obtain ⟨hcanvas, hitems⟩ := faults_read_eq_nil_iff.1 hfaults
    exact .of_denotes (Or.inr ⟨entries, rfl, holds_readCanvas hcanvas, holds_readItems hitems⟩)
  | _ =>
    obtain rfl := Except.ok.inj h
    refine .of_not_denotes fun a ha => ?_
    rcases ha with ha | ⟨entries, ha, -⟩ <;> cases ha

end Layout

end LuauLayout
